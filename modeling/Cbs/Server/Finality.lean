import Cbs.Library.Rely
import Cbs.Server.CredentialHistory
import Cbs.Server.LastAdmin

/-!
# Finality of revocations

Any number of verifications and requests run concurrently.  A revoked token may be accepted again
when a verifier stores it in the cache too late, when keys are revoked after the purge, or when a
purge is left out; otherwise a revocation that has returned is final.
-/

namespace Cbs

open Concurrency Rely Database

inductive AuthCall where
  | verify (env : VerifyEnv) (kind : TokenKind) (raw : String)
  | handle (env : CredentialEnv) (user : AuthUser) (request : CredentialRequest)

def AuthCall.task : AuthCall → AuthTask Unit
  | verify env kind raw => do
    let result ← verifyHashedToken env kind raw
    .step (.verified result) fun state => (state, ())
  | handle env user request => do
    let reply ← request.task env user
    .step (.returned reply.revoked) fun state => (state, ())

/-- What happens next: another call arrives, or a call takes its next step. -/
inductive AuthEvent where
  | arrive (call : AuthCall)
  | advance (index : Nat)

def AuthEvent.toEvent : AuthEvent → Event AuthState AuthStep
  | arrive call => .spawn call.task
  | advance index => .advance index

variable (db : Database)

/-- A server that has just been started on a database. -/
def startServer (capacity : Nat) (positive : 0 < capacity) : Pool AuthState AuthStep :=
  ⟨⟨db, .new capacity positive⟩, []⟩

def runServer (capacity : Nat) (positive : 0 < capacity)
    (events : List AuthEvent) : Pool AuthState AuthStep :=
  (startServer db capacity positive).run (events.map AuthEvent.toEvent)

def TokenCache.holds (cache : TokenCache) (check : CachedToken → Bool) : Bool :=
  cache.bySha256.table.entries.any fun entry => check entry.2

theorem TokenCache.holds_eq_false {cache : TokenCache} {check : CachedToken → Bool} :
    cache.holds check = false ↔
      ∀ digest entry, cache.peek digest = some entry → check entry = false := by
  simp only [holds, List.any_eq_false]
  constructor
  · intro none digest entry present
    exact Bool.eq_false_iff.mpr (none ⟨digest, entry⟩ (AList.mem_lookup_iff.mp present))
  · rintro none ⟨digest, entry⟩ inside
    exact Bool.eq_false_iff.mp (none digest entry (AList.mem_lookup_iff.mpr inside))

/-- The step does no harm: a token is stored in the cache while it is usable, the keys of a user are
revoked while none of them is in the cache, and only a key that is not cached is left there. -/
def AuthStep.Timely : AuthStep → AuthState → Prop
  | caching ref, state => state.db.isLive ref = true
  | disabling email, state =>
    state.cache.holds (fun entry => entry.kind = .apiKey && entry.ownerEmail = email) = false
  | unpurged ref, state => state.cache.holds (fun entry => entry.ref = ref) = false
  | _, _ => True

instance : (label : AuthStep) → (state : AuthState) → Decidable (label.Timely state)
  | .caching _, _ | .disabling _, _ | .unpurged _, _ => inferInstanceAs (Decidable (_ = _))
  | .verified _, _ | .returned _, _ => isTrue trivial

def CachedToken.Agrees (entry : CachedToken) (info : TokenInfo) : Prop :=
  info.ownerEmail = entry.ownerEmail ∧ info.tokenPrefix = entry.tokenPrefix

def Database.Describes (entry : CachedToken) : Prop :=
  db.Issued entry.ref ∧ ∀ info, db.token entry.ref = some info → entry.Agrees info

variable {entry : CachedToken}

theorem Database.Evolves.describes {before after : Database}
    (evolves : before.Evolves after) (describes : before.Describes entry) :
    after.Describes entry := by
  refine ⟨evolves.issued describes.1, fun info stored => ?_⟩
  obtain ⟨old, storedOld, continues⟩ := evolves.token describes.1 stored
  have agrees := describes.2 old storedOld
  exact ⟨continues.owner.symm.trans agrees.1, continues.tokenPrefix.symm.trans agrees.2⟩

theorem Database.describes_of_token {db : Database} {info : TokenInfo}
    (stored : db.token entry.ref = some info) (agrees : entry.Agrees info) :
    db.Describes entry := by
  refine ⟨issued_of_token stored, fun other storedOther => ?_⟩
  obtain rfl := Option.some.inj (stored.symm.trans storedOther)
  exact agrees

namespace AuthState

/-- Every entry of the cache describes a token. -/
def Consistent (state : AuthState) : Prop :=
  ∀ digest entry, state.cache.peek digest = some entry → state.db.Describes entry

/-- What a step may do: the tables go on, and only usable tokens enter the cache. -/
structure Moves (before after : AuthState) : Prop where
  evolves : before.db.Evolves after.db
  cached : ∀ digest entry, after.cache.peek digest = some entry →
    before.cache.peek digest = some entry ∨
      before.db.isLive entry.ref = true ∧ before.db.Describes entry

variable {before after : AuthState}

theorem Moves.consistent (consistent : before.Consistent)
    (moves : before.Moves after) : after.Consistent := by
  intro digest entry present
  rcases moves.cached digest entry present with old | ⟨-, describes⟩
  · exact moves.evolves.describes (consistent digest entry old)
  · exact moves.evolves.describes describes

theorem moves_of_evolves (evolves : before.db.Evolves after.db)
    (sameCache : after.cache = before.cache) : before.Moves after where
  evolves := evolves
  cached := by
    rw [sameCache]
    exact fun _ _ present => Or.inl present

theorem Moves.refl (state : AuthState) : state.Moves state :=
  moves_of_evolves (.refl state.db) rfl

/-- The token is not usable any more, and entries of the cache about it satisfy a condition. -/
structure Retired (mark : CachedToken → Prop) (ref : TokenRef) (state : AuthState) : Prop where
  issued : state.db.Issued ref
  dead : state.db.isLive ref = false
  cached : ∀ digest entry, state.cache.peek digest = some entry → entry.ref = ref → mark entry

end AuthState

open AuthState

/-- Timely runs of the server. -/
def authRely : Rely AuthState AuthStep where
  Invariant := AuthState.Consistent
  Moves := AuthState.Moves
  Allows := AuthStep.Timely
  keeps := fun _ _ consistent moves => moves.consistent consistent

theorem stable_retired (mark : CachedToken → Prop) (ref : TokenRef) :
    authRely.Stable (AuthState.Retired mark ref) := by
  intro before after _ moves retired
  have dead : ¬ before.db.isLive ref = true := Bool.eq_false_iff.mp retired.dead
  constructor
  · exact moves.evolves.issued retired.issued
  · exact Bool.eq_false_iff.mpr fun live => dead (moves.evolves.isLive retired.issued live)
  · rintro digest entry present rfl
    rcases moves.cached digest entry present with old | ⟨live, -⟩
    · exact retired.cached digest entry old rfl
    · exact absurd live dead

def AllRetired (mark : CachedToken → Prop) (refs : List TokenRef) (state : AuthState) : Prop :=
  ∀ ref ∈ refs, state.Retired mark ref

theorem stable_allRetired (mark : CachedToken → Prop) (refs : List TokenRef) :
    authRely.Stable (AllRetired mark refs) :=
  fun _ _ consistent moves retired ref inside =>
    stable_retired mark ref _ _ consistent moves (retired ref inside)

abbrev AllDead : List TokenRef → AuthState → Prop :=
  AllRetired fun _ => False

theorem allRetired_of_revokes {before after : AuthState} {condition : TokenInfo → Prop}
    {mark : CachedToken → Prop} {refs : List TokenRef} (consistent : before.Consistent)
    (evolves : before.db.Evolves after.db) (sameCache : after.cache = before.cache)
    (revokes : before.db.Revokes after.db condition refs)
    (marks : ∀ digest entry info, before.cache.peek digest = some entry → entry.ref ∈ refs →
      entry.Agrees info → condition info → mark entry) :
    AllRetired mark refs after := by
  intro ref inside
  obtain ⟨⟨info, stored, holds⟩, dead⟩ := revokes ref inside
  refine ⟨evolves.issued (issued_of_token stored), dead, ?_⟩
  rintro digest entry present rfl
  rw [sameCache] at present
  exact marks digest entry info present inside ((consistent digest entry present).2 info stored)
    holds

section Rules

variable {α ε : Type} {ensures : AuthStep → AuthState → Prop} {before : AuthState → Prop}

theorem outline_query {read : Database → α} {after : α → AuthState → Prop}
    (stable : ∀ value, authRely.Stable (after value))
    (reads : ∀ state, state.Consistent → before state → after (read state.db) state) :
    authRely.Outline ensures (AuthTask.query read) before after :=
  outline_stepFree fun state consistent holds =>
    ⟨Moves.refl state, stable _, reads state consistent holds⟩

theorem outline_execute {change : Database → Database × α}
    (evolves : ∀ db : Database, db.Evolves (change db).1) :
    authRely.Outline ensures (AuthTask.execute change) before fun _ _ => True :=
  outline_stepFree fun state _ _ =>
    ⟨moves_of_evolves (evolves state.db) rfl, authRely.stable_true, trivial⟩

variable {condition : TokenInfo → Prop} {mark : CachedToken → Prop}

theorem outline_revoke {change : Database → Database × α} {refs : α → List TokenRef}
    (evolves : ∀ db : Database, db.Evolves (change db).1)
    (revokes : ∀ db : Database, db.Revokes (change db).1 condition (refs (change db).2))
    (marks : ∀ entry info, entry.Agrees info → condition info → mark entry) :
    authRely.Outline ensures (AuthTask.execute change) before fun value state =>
      AllRetired mark (refs value) state :=
  outline_stepFree fun state consistent _ =>
    ⟨moves_of_evolves (evolves state.db) rfl, stable_allRetired mark _,
      allRetired_of_revokes consistent (evolves state.db) rfl (revokes state.db)
        fun _ entry info _ _ => marks entry info⟩

theorem outline_transaction {attempt : Database → Except ε (Database × α)}
    {refs : α → List TokenRef}
    (evolves : ∀ db after value, attempt db = .ok (after, value) → db.Evolves after)
    (revokes : ∀ db after value, attempt db = .ok (after, value) →
      db.Revokes after condition (refs value))
    (marks : ∀ entry info, entry.Agrees info → condition info → mark entry) :
    authRely.Outline ensures (AuthTask.transaction attempt) before fun result =>
      AllRetired mark (revokedBy refs result) :=
  outline_revoke (fun db => evolves_commit (evolves db))
    (fun db => revokes_commit (revokes db)) marks

theorem outline_withCache {change : TokenCache → TokenCache × α} {after : α → AuthState → Prop}
    (cached : ∀ (cache : TokenCache) digest entry, (change cache).1.peek digest = some entry →
      cache.peek digest = some entry)
    (stable : ∀ value, authRely.Stable (after value))
    (reads : ∀ state, state.Consistent → before state →
      after (change state.cache).2 { state with cache := (change state.cache).1 }) :
    authRely.Outline ensures (AuthTask.withCache change) before after :=
  outline_stepFree fun state consistent holds =>
    ⟨⟨.refl state.db, fun digest entry present => Or.inl (cached state.cache digest entry present)⟩,
      stable _, reads state consistent holds⟩

/-- A purge that drops all marked entries takes the last of the retired tokens away. -/
theorem outline_purge {change : TokenCache → TokenCache × Unit} {refs : List TokenRef}
    (drops : ∀ (cache : TokenCache) digest entry, (change cache).1.peek digest = some entry →
      cache.peek digest = some entry ∧ ¬ mark entry) :
    authRely.Outline ensures (AuthTask.withCache change) (AllRetired mark refs) fun _ =>
      AllDead refs := by
  refine outline_withCache (fun cache digest entry present => (drops cache digest entry present).1)
    (fun _ => stable_allRetired _ refs) fun state _ retired ref inside => ?_
  have before := retired ref inside
  refine ⟨before.issued, before.dead, fun digest entry present same => ?_⟩
  have kept := drops state.cache digest entry present
  exact kept.2 (before.cached digest entry kept.1 same)

theorem outline_purgeByOwner (email : String) (refs : List TokenRef) :
    authRely.Outline ensures (AuthTask.purgeByOwner email)
      (AllRetired (·.ownerEmail = email) refs) fun _ => AllDead refs :=
  outline_purge fun _ _ _ => TokenCache.peek_of_removeByOwner

theorem outline_purgeByPrefix (tokenPrefix : String) (refs : List TokenRef) :
    authRely.Outline ensures (AuthTask.purgeByPrefix tokenPrefix)
      (AllRetired (·.tokenPrefix = tokenPrefix) refs) fun _ => AllDead refs :=
  outline_purge fun _ _ _ => TokenCache.peek_of_removeByPrefix

/-- What a reply lists as revoked is out of reach. -/
abbrev Final (reply : Reply) : AuthState → Prop :=
  AllDead reply.revoked

theorem outline_plain (response : Except AuthError CredentialResponse) :
    authRely.Outline ensures (pure (Reply.plain response)) before Final :=
  outline_pure fun _ _ _ _ inside => by cases inside

/-- A reply after a purge of what it lists. -/
theorem outline_return {purge : AuthTask Unit} {refs : List TokenRef}
    (response : Except AuthError CredentialResponse)
    (purged : authRely.Outline ensures purge before fun _ => AllDead refs) :
    authRely.Outline ensures (do purge; pure ⟨response, refs⟩) before Final :=
  Outline.bind (fun _ => AllDead refs) purged fun _ => outline_pure fun _ _ dead => dead

theorem outline_orRefuse {check : Except AuthError α} {next : α → AuthTask Reply}
    (accepted : ∀ value, check = .ok value →
      authRely.Outline ensures (next value) before Final) :
    authRely.Outline ensures (AuthTask.orRefuse check next) before Final :=
  outline_orReply (fun _ _ _ _ _ inside => by cases inside) accepted

end Rules

theorem token_of_mem_fetchCandidates {db : Database} {rank : Int → Nat} {tokenPrefix : String}
    {kind : TokenKind} {candidate : CandidateRow}
    (inside : candidate ∈ db.fetchCandidates rank tokenPrefix kind) :
    ∃ info, db.token (candidate.toCached kind).ref = some info ∧ info.revoked = false ∧
      (candidate.toCached kind).Agrees info := by
  cases kind with
  | apiKey | robotToken =>
    obtain ⟨⟨id, row⟩, selected, rfl⟩ := List.mem_map.mp inside
    obtain ⟨stored, checked⟩ := GeneratedTable.mem_select.mp selected
    simp only [Bool.and_eq_true, Bool.not_eq_true'] at checked
    exact ⟨row.info, Option.map_eq_some_iff.mpr ⟨row, stored, rfl⟩, checked.2, rfl, rfl⟩

def AvoidsRevoked (revoked : List TokenRef) (result : Except TokenError CachedToken) : Prop :=
  ∀ entry, result = .ok entry → entry.ref ∉ revoked

/-- What is promised when a call returns: a request leaves nothing of what it revoked, and a
verification does not give one of the given tokens. -/
def Promises (revoked : List TokenRef) : AuthStep → AuthState → Prop
  | .returned refs, state => AllDead refs state
  | .verified result, _ => AvoidsRevoked revoked result
  | _, _ => True

section Verify

variable {revoked : List TokenRef}

theorem outline_cacheToken (digest : Digest) (entry : CachedToken) (fact : Prop) :
    authRely.Outline (Promises revoked) (cacheToken digest entry)
      (fun state => state.db.Describes entry ∧ fact) fun _ _ => fact := by
  refine outline_stepAt fun state _ holds permitted => ⟨⟨.refl state.db, ?_⟩, ?_, ?_, holds.2⟩
  · intro other found present
    rcases TokenCache.peek_of_insert present with rfl | old
    · exact Or.inr ⟨permitted _ rfl, holds.1⟩
    · exact Or.inl old
  · rintro _ ⟨⟩
    trivial
  · exact authRely.stable_const fact

theorem outline_verifyUncached (env : VerifyEnv) (kind : TokenKind) (raw : String) :
    authRely.Outline (Promises revoked) (verifyUncached env kind raw) (AllDead revoked)
      fun result _ => AvoidsRevoked revoked result := by
  refine Outline.bind (fun candidates state => ∀ candidate ∈ candidates,
    state.db.Describes (candidate.toCached kind) ∧ (candidate.toCached kind).ref ∉ revoked) ?_ ?_
  · apply outline_query
    · intro candidates before after _ moves holds candidate inside
      exact ⟨moves.evolves.describes (holds candidate inside).1, (holds candidate inside).2⟩
    · intro state _ dead candidate inside
      obtain ⟨info, stored, live, agrees⟩ := token_of_mem_fetchCandidates inside
      refine ⟨describes_of_token stored agrees, fun isRevoked => ?_⟩
      have isDead := (dead _ isRevoked).dead
      rw [isLive_iff.mpr ⟨info, stored, live⟩] at isDead
      cases isDead
  · intro candidates
    dsimp only
    split
    · exact outline_pure fun _ _ _ entry isOk => by cases isOk
    · rename_i candidate found
      have inside := List.mem_of_find?_eq_some found
      split_ifs
      · exact outline_pure fun _ _ _ entry isOk => by cases isOk
      · refine Outline.bind (fun _ _ => (candidate.toCached kind).ref ∉ revoked)
          ((outline_cacheToken _ _ _).mono fun state _ holds => holds candidate inside) ?_
        intro _
        refine outline_pure fun _ _ avoided entry isOk => ?_
        obtain rfl := Except.ok.inj isOk
        exact avoided

/-- No verification that starts after a revocation has returned gives a revoked token. -/
theorem outline_verifyHashedToken (env : VerifyEnv) (kind : TokenKind) (raw : String) :
    authRely.Outline (Promises revoked) (verifyHashedToken env kind raw) (AllDead revoked)
      fun result _ => AvoidsRevoked revoked result := by
  unfold verifyHashedToken
  split_ifs
  · exact outline_pure fun _ _ _ entry isOk => by cases isOk
  · refine Outline.bind (fun hit state => AllDead revoked state ∧
      ∀ entry, hit = some entry → entry.ref ∉ revoked) ?_ ?_
    · apply outline_withCache
      · exact fun cache digest entry present => by simpa using present
      · exact fun _ => (stable_allRetired _ revoked).and (authRely.stable_const _)
      · intro state _ dead
        refine ⟨fun ref inside => ?_, fun entry isHit isRevoked => ?_⟩
        · have before := dead ref inside
          exact ⟨before.issued, before.dead, fun digest entry present => before.cached digest entry
            (by simpa using present)⟩
        · rw [TokenCache.get_snd] at isHit
          exact (dead entry.ref isRevoked).cached _ entry isHit rfl
    · intro hit
      cases hit with
      | none => exact (outline_verifyUncached env kind raw).mono fun _ _ holds => holds.1
      | some cached =>
        refine outline_pure fun _ _ holds entry isOk => ?_
        split_ifs at isOk
        obtain rfl := Except.ok.inj isOk
        exact holds.2 _ rfl

end Verify

/-- The request keeps the promises, and what its reply lists as revoked is out of reach. -/
abbrev KeepsPromises (revoked : List TokenRef) (task : AuthTask Reply) (before : AuthState → Prop) :
    Prop :=
  authRely.Outline (Promises revoked) task before Final

section Requests

variable {α : Type} {revoked : List TokenRef} {before : AuthState → Prop}

/-- A request that changes the database without revoking a token. -/
theorem outline_unrevoking {change : Database → Database × α} {next : α → AuthTask Reply}
    (evolves : ∀ db : Database, db.Evolves (change db).1)
    (rest : ∀ value, KeepsPromises revoked (next value) (fun _ => True)) :
    KeepsPromises revoked (AuthTask.execute change >>= next) before :=
  Outline.bind (fun _ _ => True) (outline_execute evolves) rest

theorem outline_reading {read : Database → α} {next : α → AuthTask Reply}
    (rest : ∀ value, KeepsPromises revoked (next value) (fun _ => True)) :
    KeepsPromises revoked (AuthTask.query read >>= next) before :=
  Outline.bind (fun _ _ => True)
    (outline_query (fun _ => authRely.stable_true) fun _ _ _ => trivial) rest

variable (env : CredentialEnv) (user : AuthUser)

theorem outline_createApiKeyHandler (name : String) (material : KeyMaterial) :
    KeepsPromises revoked (createApiKeyHandler env user name material) before := by
  refine outline_orRefuse fun _ _ => outline_orRefuse fun _ _ => outline_orRefuse fun _ _ => ?_
  exact outline_unrevoking
    (fun _ => evolves_commit fun _ _ => evolves_insertApiKey)
    fun _ => outline_plain _

theorem outline_listApiKeysHandler : KeepsPromises revoked (listApiKeysHandler env user) before :=
  outline_orRefuse fun _ _ => outline_reading fun _ => outline_plain _

theorem outline_revokeApiKeyHandler (keyPrefix : String) :
    KeepsPromises revoked (revokeApiKeyHandler user keyPrefix) before := by
  refine outline_orRefuse fun _ _ => Outline.bind
    (fun ids => AllRetired (·.tokenPrefix = keyPrefix) (apiKeyRefs ids)) ?_ fun ids => ?_
  · refine outline_revoke (fun _ => evolves_revokeApiKeys _)
      (fun _ => revokes_revokeApiKeys _ (·.tokenPrefix = keyPrefix) ?_) ?_
    · intro id row checked
      simp only [Bool.and_eq_true, decide_eq_true_eq] at checked
      exact checked.2
    · exact fun entry info agrees owned => agrees.2.symm.trans owned
  · split_ifs
    · exact outline_plain _
    · exact outline_return _ (outline_purgeByPrefix _ _)

theorem outline_registerWorker (name arch : String) (id : WorkerId) (material : KeyMaterial) :
    KeepsPromises revoked (registerWorker env user name arch id material) before := by
  refine outline_orRefuse fun _ _ => outline_orRefuse fun _ _ => outline_orRefuse fun arch _ => ?_
  refine outline_unrevoking (fun db => evolves_commit fun after value done => ?_)
    fun _ => outline_plain _
  obtain ⟨stored, registered, same⟩ := Checks.map_eq_ok.mp done
  obtain ⟨rfl, -⟩ := Prod.mk.inj same
  exact (registerWorker_eq_ok registered).1

/-- The key of a worker, if it is among the revoked ones, can be purged by its prefix. -/
def KeyRetired (keyId : Int) (ids : List Int) (state : AuthState) : Prop :=
  ∀ id ∈ ids, id = keyId ∧ ∃ keyPrefix, state.db.getKeyPrefixById keyId = some keyPrefix ∧
    state.Retired (·.tokenPrefix = keyPrefix) ⟨.apiKey, keyId⟩

theorem stable_keyRetired (keyId : Int) (ids : List Int) :
    authRely.Stable (KeyRetired keyId ids) := by
  intro earlier later consistent moves holds id inside
  obtain ⟨same, keyPrefix, stored, retired⟩ := holds id inside
  exact ⟨same, keyPrefix, moves.evolves.getKeyPrefixById stored,
    stable_retired _ _ _ _ consistent moves retired⟩

theorem keyRetired_of_revokes {earlier later : AuthState} {keyId : Int} {ids : List Int}
    (consistent : earlier.Consistent) (evolves : earlier.db.Evolves later.db)
    (sameCache : later.cache = earlier.cache) (same : ∀ id ∈ ids, id = keyId)
    (revokes : earlier.db.Revokes later.db (fun _ => True) (apiKeyRefs ids)) :
    KeyRetired keyId ids later := by
  intro id inside
  obtain rfl := same id inside
  have listed : ⟨.apiKey, id⟩ ∈ apiKeyRefs ids := List.mem_map_of_mem inside
  obtain ⟨⟨info, stored, -⟩, -⟩ := revokes _ listed
  obtain ⟨row, found, rfl⟩ := Option.map_eq_some_iff.mp stored
  refine ⟨rfl, row.keyPrefix, ?_, ?_⟩
  · exact evolves.getKeyPrefixById (Option.map_eq_some_iff.mpr ⟨row, found, rfl⟩)
  · refine ⟨evolves.issued (issued_of_token stored), (revokes _ listed).2, ?_⟩
    intro digest entry present same
    rw [sameCache] at present
    exact ((consistent digest entry present).2 row.info (by rw [same]; exact stored)).2.symm

theorem outline_purgeKey (lookupFails : Bool) (keyId : Int) (ids : List Int) :
    authRely.Outline (Promises revoked) (purgeKey lookupFails keyId) (KeyRetired keyId ids)
      fun _ => AllDead (apiKeyRefs ids) := by
  unfold purgeKey
  split_ifs
  · refine outline_stepAt fun state _ holds permitted => ⟨Moves.refl state, ?_, ?_, ?_⟩
    · rintro _ ⟨⟩
      trivial
    · exact stable_allRetired _ _
    · intro ref inside
      obtain ⟨id, isRevoked, rfl⟩ := List.mem_map.mp inside
      obtain ⟨rfl, keyPrefix, -, retired⟩ := holds id isRevoked
      refine ⟨retired.issued, retired.dead, fun digest entry present same => ?_⟩
      have absent := TokenCache.holds_eq_false.mp (permitted _ rfl) digest entry present
      simp [same] at absent
  · refine Outline.bind (fun found state => ∀ id ∈ ids, ∃ keyPrefix, found = some keyPrefix ∧
      state.Retired (·.tokenPrefix = keyPrefix) ⟨.apiKey, id⟩) ?_ fun found => ?_
    · apply outline_query
      · intro found earlier later consistent moves holds id inside
        obtain ⟨keyPrefix, isFound, retired⟩ := holds id inside
        exact ⟨keyPrefix, isFound, stable_retired _ _ _ _ consistent moves retired⟩
      · intro state _ holds id inside
        obtain ⟨rfl, keyPrefix, stored, retired⟩ := holds id inside
        exact ⟨keyPrefix, stored, retired⟩
    · cases found with
      | none =>
        refine outline_pure fun state _ holds ref inside => ?_
        obtain ⟨id, isRevoked, rfl⟩ := List.mem_map.mp inside
        obtain ⟨keyPrefix, isFound, -⟩ := holds id isRevoked
        cases isFound
      | some keyPrefix =>
        refine (outline_purgeByPrefix keyPrefix (apiKeyRefs ids)).mono ?_
        intro state _ holds ref inside
        obtain ⟨id, isRevoked, rfl⟩ := List.mem_map.mp inside
        obtain ⟨other, isFound, retired⟩ := holds id isRevoked
        obtain rfl := Option.some.inj isFound
        exact retired

theorem stable_issued (ref : TokenRef) : authRely.Stable fun state => state.db.Issued ref :=
  fun _ _ _ moves issued => moves.evolves.issued issued

theorem outline_getWorkerById {next : Option WorkerRow → AuthTask Reply} (id : WorkerId)
    (rest : ∀ found, KeepsPromises revoked (next found)
      (fun state => ∀ worker, found = some worker → state.db.Issued ⟨.apiKey, worker.apiKeyId⟩)) :
    KeepsPromises revoked (AuthTask.query (·.getWorkerById id) >>= next) before := by
  refine Outline.bind _ (outline_query (fun found => ?_) fun state _ _ worker isFound => ?_) rest
  · exact Stable.forall fun worker _ _ consistent moves holds isFound =>
      stable_issued _ _ _ consistent moves (holds isFound)
  · exact state.db.apiKeys.bounded _ (state.db.bound id worker isFound)

theorem outline_deregisterWorker (id : WorkerId) (lookupFails : Bool) :
    KeepsPromises revoked (deregisterWorker user id lookupFails) before := by
  refine outline_orRefuse fun _ _ => outline_reading fun found => ?_
  refine outline_orRefuse fun worker _ => ?_
  refine Outline.bind (KeyRetired worker.apiKeyId) ?_ fun ids => ?_
  · refine outline_stepFree fun state consistent _ =>
      ⟨moves_of_evolves (evolves_deregisterWorker id worker) rfl, stable_keyRetired _ _, ?_⟩
    exact keyRetired_of_revokes consistent (evolves_deregisterWorker id worker) rfl
      (fun _ => eq_of_mem_revokeApiKeyById) (revokes_deregisterWorker id worker)
  · exact outline_return _ (outline_purgeKey _ _ _)

theorem outline_regenerateWorkerToken (id : WorkerId)
    (material : KeyMaterial) (lookupFails : Bool) :
    KeepsPromises revoked (regenerateWorkerToken env user id material lookupFails) before := by
  refine outline_orRefuse fun _ _ => outline_getWorkerById id fun found => ?_
  refine outline_orRefuse fun worker isFound => ?_
  rw [Checks.orError_eq_ok] at isFound
  refine Outline.bind (fun result => KeyRetired worker.apiKeyId (result.toOption.getD [])) ?_
    fun result => ?_
  · refine outline_stepFree fun state consistent issued => ?_
    cases attempted : state.db.regenerateToken env.now user.email id worker material with
    | error reason =>
      rw [commit_of_error attempted]
      exact ⟨Moves.refl state, stable_keyRetired _ _, fun _ inside => by cases inside⟩
    | ok outcome =>
      obtain ⟨after, ids⟩ := outcome
      have evolves := evolves_regenerateToken attempted
      obtain ⟨same, revokes⟩ := revokes_regenerateToken (issued worker isFound) attempted
      rw [commit_of_ok attempted]
      exact ⟨moves_of_evolves evolves rfl, stable_keyRetired _ _,
        keyRetired_of_revokes consistent evolves rfl same revokes⟩
  · refine outline_orRefuse fun ids isOk => ?_
    obtain rfl := Checks.mapError_eq_ok.mp isOk
    exact outline_return _ (outline_purgeKey _ _ _)

theorem owner_of_agrees {email : String} (entry : CachedToken) (info : TokenInfo)
    (agrees : entry.Agrees info) (owned : info.ownerEmail = email) : entry.ownerEmail = email :=
  agrees.1.symm.trans owned

theorem outline_createOrReviveRobot (body : CreateRobotBody) (material : KeyMaterial) :
    KeepsPromises revoked (createOrReviveRobot env user body material) before := by
  refine outline_orRefuse fun _ _ => outline_orRefuse fun _ _ => outline_reading fun _ => ?_
  refine outline_orRefuse fun _ _ => outline_orRefuse fun expiresAt _ => ?_
  let email := env.nameToSyntheticEmail (env.toLowercase body.name)
  refine Outline.bind (fun result state =>
    AllRetired (·.ownerEmail = email) (revokedBy (fun outcome :
      CreateRevivedOutcome × List Int => robotTokenRefs outcome.2) result) state ∧
    ∀ outcome : CreateRevivedOutcome × List Int, result = .ok outcome → outcome.1 = .created →
      outcome.2 = []) ?_ fun result => ?_
  · refine outline_stepFree fun state consistent _ =>
      ⟨moves_of_evolves (evolves_commit fun _ _ done =>
          (createOrRevive_eq_ok done).1.evolves) rfl,
        (stable_allRetired _ _).and (authRely.stable_const _), ?_, ?_⟩
    · exact allRetired_of_revokes consistent
        (evolves_commit fun _ _ done => (createOrRevive_eq_ok done).1.evolves) rfl
        (revokes_commit fun _ _ done => (createOrRevive_eq_ok done).2.1)
        fun _ entry info _ _ => owner_of_agrees entry info
    · intro outcome isOk isCreated
      obtain ⟨after, done⟩ := commit_eq_ok isOk
      exact (createOrRevive_eq_ok done).2.2 isCreated
  · refine outline_orRefuse fun outcome isOk => ?_
    obtain rfl := Checks.mapError_eq_ok.mp isOk
    refine Outline.bind (fun _ => AllDead (robotTokenRefs outcome.2)) ?_ fun _ => ?_
    · obtain ⟨revival, ids⟩ := outcome
      cases revival with
      | created =>
        refine outline_pure fun state _ holds ref inside => ?_
        obtain rfl : ids = [] := holds.2 _ rfl rfl
        cases inside
      | revived => exact (outline_purgeByOwner _ _).mono fun state _ holds => holds.1
    · refine Outline.bind (fun _ => AllDead (robotTokenRefs outcome.2)) ?_
        fun _ => outline_pure fun _ _ dead => dead
      exact outline_query (fun _ => stable_allRetired _ _) fun _ _ dead => dead

theorem outline_tombstoneRobot (name : String) :
    KeepsPromises revoked (tombstoneRobot env user name) before := by
  refine outline_orRefuse fun _ _ => outline_reading fun _ => outline_orRefuse fun _ _ => ?_
  refine Outline.bind (fun ids => AllRetired (·.ownerEmail = env.nameToSyntheticEmail name)
    (robotTokenRefs ids)) ?_ fun ids => outline_return _ (outline_purgeByOwner _ _)
  exact outline_revoke (fun _ => evolves_tombstoneRobot _ _)
    (fun _ => revokes_tombstoneRobot _ _) owner_of_agrees

theorem outline_createOrRotateToken (name : String)
    (expires : ExpiresWire) (renew : Bool) (material : KeyMaterial) :
    KeepsPromises revoked (createOrRotateToken env user name expires renew material) before := by
  refine outline_orRefuse fun _ _ => outline_orRefuse fun expiresAt _ => ?_
  refine Outline.bind (fun result =>
    AllRetired (·.ownerEmail = env.nameToSyntheticEmail name)
      (revokedBy robotTokenRefs result)) ?_ fun result => ?_
  · exact outline_transaction (fun _ _ _ rotated => (rotateToken_eq_ok rotated).2.1.evolves)
      (fun _ _ _ rotated => (rotateToken_eq_ok rotated).2.2) owner_of_agrees
  · refine outline_orRefuse fun ids isOk => ?_
    obtain rfl := Checks.mapError_eq_ok.mp isOk
    exact outline_return _ (outline_purgeByOwner _ _)

theorem outline_revokeRobotToken (name : String) :
    KeepsPromises revoked (revokeRobotToken env user name) before := by
  refine outline_orRefuse fun _ _ => outline_reading fun _ => outline_orRefuse fun _ _ => ?_
  refine Outline.bind (fun ids => AllRetired (·.ownerEmail = env.nameToSyntheticEmail name)
    (robotTokenRefs ids)) ?_ fun ids => outline_return _ (outline_purgeByOwner _ _)
  exact outline_revoke (fun _ => (concerns_revokeAllActiveTokens _).evolves)
    (fun _ => revokes_revokeAllActiveTokens _) owner_of_agrees

theorem outline_setRobotDescription (name : String) (description : Option String) :
    KeepsPromises revoked (setRobotDescription env user name description) before :=
  outline_orRefuse fun _ _ =>
    outline_unrevoking (fun _ => evolves_setDescription _ _ _) fun _ => outline_plain _

theorem outline_purging {next : Unit → AuthTask Reply} (email : String)
    (rest : ∀ value, KeepsPromises revoked (next value) (fun _ => True)) :
    KeepsPromises revoked (AuthTask.purgeByOwner email >>= next) before := by
  refine Outline.bind (fun _ _ => True) (outline_withCache (fun cache digest entry present =>
    (TokenCache.peek_of_removeByOwner present).1) (fun _ => authRely.stable_true)
    fun _ _ _ => trivial) rest

theorem outline_deactivateEntity (address : String) :
    KeepsPromises revoked (AuthTask.deactivateEntity env user address) before := by
  refine outline_orRefuse fun _ _ => outline_reading fun _ => outline_orRefuse fun target _ => ?_
  split
  · exact outline_plain _
  · refine outline_unrevoking (fun _ => evolves_deactivateUser _ _) fun _ => ?_
    refine outline_orRefuse fun _ _ => outline_purging _ fun _ => ?_
    split
    · exact outline_plain _
    · refine outline_unrevoking (fun _ => evolves_withAccounts _) fun tokens => ?_
      refine Outline.bind (fun ids => AllDead (apiKeyRefs ids)) ?_
        fun ids => outline_pure fun _ _ dead => dead
      refine outline_stepAt fun state consistent _ permitted =>
        ⟨moves_of_evolves (evolves_revokeApiKeys _) rfl, ?_, stable_allRetired _ _, ?_⟩
      · rintro _ ⟨⟩
        trivial
      · refine allRetired_of_revokes consistent (evolves_revokeApiKeys _) rfl
          (revokes_revokeApiKeys _ (·.ownerEmail = env.normalizeEmail address)
            fun _ _ checked => of_decide_eq_true checked) ?_
        intro digest entry info present listed agrees owned
        have absent := TokenCache.holds_eq_false.mp (permitted _ rfl) digest entry present
        obtain ⟨id, -, same⟩ := List.mem_map.mp listed
        have isKey : entry.kind = .apiKey := (congrArg TokenRef.kind same).symm
        simp [isKey, owner_of_agrees entry info agrees owned] at absent

theorem outline_activateEntity (address : String) :
    KeepsPromises revoked (AuthTask.activateEntity env user address) before := by
  refine outline_orRefuse fun _ _ => outline_reading fun _ => outline_orRefuse fun target _ => ?_
  refine Outline.bind (fun _ _ => True) ?_ fun usable => outline_orRefuse fun _ _ =>
    outline_unrevoking (fun _ => evolves_withAccounts _) fun _ =>
      outline_purging _ fun _ => outline_plain _
  unfold AuthTask.mayActivate
  split
  · exact outline_query (fun _ => authRely.stable_true) fun _ _ _ => trivial
  · exact outline_pure fun _ _ _ => trivial

theorem outline_roleRequest (change : Accounts → Accounts × Except AuthError AdminResponse) :
    KeepsPromises revoked (do
      let response ← AuthTask.execute fun db =>
        (db.withAccounts (change db.accounts).1, (change db.accounts).2)
      pure (.plain (response.map .admin))) before :=
  outline_unrevoking (fun _ => evolves_withAccounts _) fun _ => outline_plain _

theorem outline_adminRequest (request : AdminRequest) :
    KeepsPromises revoked (request.task env user) before := by
  cases request with
  | deactivateEntity address => exact outline_deactivateEntity env user address
  | activateEntity address => exact outline_activateEntity env user address
  | _ => exact outline_roleRequest _

/-- When a request returns, nothing is left of what it revoked. -/
theorem outline_request (request : CredentialRequest) :
    KeepsPromises revoked (request.task env user) before := by
  cases request with
  | createApiKey => exact outline_createApiKeyHandler ..
  | listApiKeys => exact outline_listApiKeysHandler ..
  | revokeApiKey => exact outline_revokeApiKeyHandler ..
  | registerWorker => exact outline_registerWorker ..
  | deregisterWorker => exact outline_deregisterWorker ..
  | regenerateWorkerToken => exact outline_regenerateWorkerToken ..
  | createOrReviveRobot => exact outline_createOrReviveRobot ..
  | tombstoneRobot => exact outline_tombstoneRobot ..
  | createOrRotateToken => exact outline_createOrRotateToken ..
  | revokeRobotToken => exact outline_revokeRobotToken ..
  | setRobotDescription => exact outline_setRobotDescription ..
  | admin request => exact outline_adminRequest env user request

end Requests

/-- A call that starts when the given tokens are out of reach keeps the promises. -/
theorem outline_call (revoked : List TokenRef) (call : AuthCall) :
    authRely.Outline (Promises revoked) call.task (AllDead revoked) fun _ _ => True := by
  cases call with
  | verify env kind raw =>
    refine Outline.bind (fun result _ => AvoidsRevoked revoked result)
      (outline_verifyHashedToken env kind raw) fun result => ?_
    refine outline_stepAt fun state _ avoids _ =>
      ⟨Moves.refl state, ?_, authRely.stable_true, trivial⟩
    rintro _ ⟨⟩
    exact avoids
  | handle env user request =>
    refine Outline.bind Final (outline_request env user request) fun reply => ?_
    refine outline_stepAt fun state _ final _ =>
      ⟨Moves.refl state, ?_, authRely.stable_true, trivial⟩
    rintro _ ⟨⟩
    exact final

variable {events : List AuthEvent}

theorem outline_of_mem {routine : AuthTask Unit} (revoked : List TokenRef)
    (started : .spawn routine ∈ events.map AuthEvent.toEvent) :
    authRely.Outline (Promises revoked) routine (AllDead revoked) fun _ _ => True := by
  obtain ⟨event, -, same⟩ := List.mem_map.mp started
  cases event with
  | arrive call =>
    obtain rfl := Event.spawn.inj same
    exact outline_call revoked call
  | advance index => cases same

def TimelyRun (capacity : Nat) (positive : 0 < capacity) (events : List AuthEvent) : Prop :=
  (startServer db capacity positive).PermittedRun AuthStep.Timely (events.map AuthEvent.toEvent)

instance (capacity : Nat) (positive : 0 < capacity) (events : List AuthEvent) :
    Decidable (TimelyRun db capacity positive events) :=
  inferInstanceAs (Decidable (Pool.PermittedRun ..))

theorem runServer_append (capacity : Nat) (positive : 0 < capacity)
    (first second : List AuthEvent) :
    runServer db capacity positive (first ++ second) =
      (runServer db capacity positive first).run (second.map AuthEvent.toEvent) := by
  rw [runServer, List.map_append, Pool.run_append, runServer]

/-- Along a timely run every call keeps the promises. -/
theorem outlined_runServer {db : Database} {capacity : Nat} {positive : 0 < capacity}
    (timely : TimelyRun db capacity positive events) :
    authRely.Outlined (fun _ => Promises []) (runServer db capacity positive events) := by
  refine (Outlined.run ⟨?_, ?_⟩ (stable_allRetired (fun _ => False) []) ?_ timely ?_).1
  · exact fun digest entry present => by cases present
  · exact fun index thread found => by cases found
  · exact fun ref inside => by cases inside
  · exact fun index routine _ started => outline_of_mem [] started

/-- Once a request has returned, no verification that starts later accepts a token that it
revoked. -/
theorem revocation_is_final (db : Database) (capacity : Nat) (positive : 0 < capacity)
    (before after : List AuthEvent) (request call : Nat) (revoked : List TokenRef)
    (token : CachedToken)
    (timely : TimelyRun db capacity positive (before ++ .advance request :: after))
    (returns : (runServer db capacity positive before).labelOf request = some (.returned revoked))
    (later : (runServer db capacity positive before).threads.length ≤ call)
    (succeeds : (runServer db capacity positive (before ++ .advance request :: after)).labelOf
      call = some (.verified (.ok token))) :
    token.ref ∉ revoked := by
  rw [TimelyRun, List.map_append, Pool.permittedRun_append] at timely
  rw [runServer_append] at succeeds
  have outlined := outlined_runServer timely.1
  have dead : AllDead revoked (runServer db capacity positive before).state :=
    outlined.ensures_label returns trivial
  -- From here on the calls that are already running promise nothing about these tokens.
  have split : authRely.Outlined (fun index =>
      if index < (runServer db capacity positive before).threads.length then Promises []
      else Promises revoked) (runServer db capacity positive before) := by
    refine ⟨outlined.invariant, fun index thread found => ?_⟩
    rw [if_pos (List.getElem?_eq_some_iff.mp found).1]
    exact outlined.threads index thread found
  have outlinedLater := (split.run (stable_allRetired _ revoked) dead timely.2
    fun index routine new started => by
      rw [if_neg (Nat.not_lt.mpr new)]
      exact outline_of_mem revoked started).1
  have avoids := outlinedLater.ensures_label succeeds trivial
  rw [if_neg (Nat.not_lt.mpr later)] at avoids
  exact avoids token rfl

/-- An environment for names and addresses that are normalized already. -/
def CredentialEnv.plain : CredentialEnv where
  toAdminEnv := .plain
  toLowercase := id
  parseDate := fun _ => .error "invalid expires date"
  rowRank := Int.toNat

/-- An environment in which a hash is the bearer string itself. -/
def VerifyEnv.plain : VerifyEnv where
  now := 0
  sha256 := fun raw => BitVec.ofNat 256 (raw.toList.getLastD ' ').toNat
  argon2Verify := fun raw hash => raw = hash
  rowRank := Int.toNat
  validatePaseto := fun _ _ => .error ⟨.unauthorized, "invalid token"⟩

def apiKeyOf (digit : Char) : KeyMaterial where
  plaintext := "cbsk_" ++ String.ofList (List.replicate 64 digit)
  keyPrefix := String.ofList (List.replicate 12 digit)
  hash := "cbsk_" ++ String.ofList (List.replicate 64 digit)

def aliceAsks (request : CredentialRequest) : AuthEvent :=
  .arrive (.handle .plain alice request)

def verifies (digit : Char) : AuthEvent :=
  .arrive (.verify .plain .apiKey (apiKeyOf digit).plaintext)

/-- Two keys are created, the first one is verified and then revoked. -/
def revokedAfterUse : List AuthEvent :=
  [aliceAsks (.createApiKey "laptop" (apiKeyOf '1')), .advance 0, .advance 0,
    aliceAsks (.createApiKey "desktop" (apiKeyOf '2')), .advance 1, .advance 1,
    verifies '1', .advance 2, .advance 2, .advance 2, .advance 2,
    aliceAsks (.revokeApiKey (apiKeyOf '1').keyPrefix), .advance 3, .advance 3]

/-- The other key is still accepted, and it is not the revoked one. -/
theorem revocation_is_final_for_laptop :
    TimelyRun (.new singleAdmin) 16 (by decide)
        (revokedAfterUse ++ .advance 3 :: [verifies '2', .advance 4, .advance 4, .advance 4]) ∧
      (⟨.apiKey, 2⟩ : TokenRef) ∉ [(⟨.apiKey, 1⟩ : TokenRef)] :=
  ⟨by decide, revocation_is_final (.new singleAdmin) 16 (by decide) revokedAfterUse
    [verifies '2', .advance 4, .advance 4, .advance 4] 3 4 [⟨.apiKey, 1⟩]
    ⟨.apiKey, 2, "alice@example.com", (apiKeyOf '2').keyPrefix, none⟩ (by decide) (by decide)
    (by decide) (by decide)⟩

/-- A verification has fetched the row of a key when the key is revoked. -/
def revokedDuringUse : List AuthEvent :=
  [aliceAsks (.createApiKey "laptop" (apiKeyOf '1')), .advance 0, .advance 0,
    verifies '1', .advance 1, .advance 1,
    aliceAsks (.revokeApiKey (apiKeyOf '1').keyPrefix), .advance 2, .advance 2]

/-- It stores the key in the cache after the request has returned, and another verification accepts
the revoked key. -/
theorem revoked_key_accepted :
    (runServer (.new singleAdmin) 16 (by decide) revokedDuringUse).labelOf 2 =
        some (.returned [⟨.apiKey, 1⟩]) ∧
      (runServer (.new singleAdmin) 16 (by decide) revokedDuringUse).threads.length ≤ 3 ∧
      (runServer (.new singleAdmin) 16 (by decide)
        (revokedDuringUse ++ .advance 2 :: [.advance 1, verifies '1', .advance 3])).labelOf 3 =
        some (.verified (.ok
          ⟨.apiKey, 1, "alice@example.com", (apiKeyOf '1').keyPrefix, none⟩)) := by
  decide

end Cbs

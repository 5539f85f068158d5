import Cbs.Server.Finality

/-!
# The lifecycle of worker credentials

A worker is registered with a fresh key, its key can be replaced, and with the worker its key goes.
Revoked rows stay, so an administrator can ask only once for a key of a worker with a given name.
-/

namespace Cbs

open Concurrency Checks AuthTask

inductive WorkerRequest where
  | register (name arch : String) (id : WorkerId) (material : KeyMaterial)
  | regenerate (id : WorkerId) (material : KeyMaterial) (lookupFails : Bool)
  | deregister (id : WorkerId) (lookupFails : Bool)
  deriving DecidableEq

structure WorkerCall where
  env : CredentialEnv
  caller : AuthUser
  request : WorkerRequest

namespace WorkerCall

def task (call : WorkerCall) : AuthTask Reply :=
  match call.request with
  | .register name arch id material => registerWorker call.env call.caller name arch id material
  | .regenerate id material lookupFails =>
    regenerateWorkerToken call.env call.caller id material lookupFails
  | .deregister id lookupFails => deregisterWorker call.caller id lookupFails

def complete (call : WorkerCall) (state : AuthState) : AuthState :=
  (call.task.run state).1

def response (call : WorkerCall) (state : AuthState) : Except AuthError CredentialResponse :=
  (call.task.run state).2.response

def Succeeds (call : WorkerCall) (state : AuthState) : Prop :=
  ∃ response, call.response state = .ok response

end WorkerCall

def KeyMaterial.Fresh (material : KeyMaterial) (db : Database) : Prop :=
  ∀ id row, db.apiKeys.get id = some row →
    row.keyHash ≠ material.hash ∧ row.keyPrefix ≠ material.keyPrefix

instance (material : KeyMaterial) (db : Database) : Decidable (material.Fresh db) :=
  decidable_of_iff (∀ entry ∈ db.apiKeys.rows.entries,
    entry.2.keyHash ≠ material.hash ∧ entry.2.keyPrefix ≠ material.keyPrefix) <| by
      simp only [KeyMaterial.Fresh, GeneratedTable.get, ← Dictionary.forall_entries_iff]

/-- The random values of a request are not in use. -/
def WorkerRequest.Sensible (db : Database) : WorkerRequest → Prop
  | register _ _ id material => id ∉ db.workers.rows ∧ material.Fresh db
  | regenerate _ material _ => material.Fresh db
  | deregister _ _ => True

instance (db : Database) : (request : WorkerRequest) → Decidable (request.Sensible db)
  | .register .. => inferInstanceAs (Decidable (_ ∧ _))
  | .regenerate _ material _ => inferInstanceAs (Decidable (material.Fresh db))
  | .deregister .. => isTrue trivial

/-- The call is made by an administrator of the workers with fresh random values. -/
structure WorkerCall.Sensible (call : WorkerCall) (db : Database) : Prop where
  capable : call.caller.hasCap "workers:manage" = true
  known : call.caller.email ∈ db.accounts.users
  request : call.request.Sensible db

instance (call : WorkerCall) (db : Database) : Decidable (call.Sensible db) :=
  decidable_of_iff (call.caller.hasCap "workers:manage" = true ∧
      call.caller.email ∈ db.accounts.users ∧ call.request.Sensible db)
    ⟨fun ⟨capable, known, request⟩ => ⟨capable, known, request⟩,
      fun ⟨capable, known, request⟩ => ⟨capable, known, request⟩⟩

def completeWorkers (calls : List WorkerCall) (state : AuthState) : AuthState :=
  calls.foldl (fun state call => call.complete state) state

/-- Every call is made by an administrator with fresh random values. -/
def SensibleRun : List WorkerCall → AuthState → Prop
  | [], _ => True
  | call :: calls, state => call.Sensible state.db ∧ SensibleRun calls (call.complete state)

instance : (calls : List WorkerCall) → (state : AuthState) → Decidable (SensibleRun calls state)
  | [], _ => inferInstanceAs (Decidable True)
  | call :: calls, state =>
    have := instDecidableSensibleRun calls (call.complete state)
    inferInstanceAs (Decidable (call.Sensible state.db ∧ SensibleRun calls (call.complete state)))

namespace Database

section Constraints

variable {db after : Database}

def HasWorkerNamed (db : Database) (name : String) : Prop :=
  ∃ id worker, db.workers.rows.lookup id = some worker ∧ worker.name = name

instance (db : Database) (name : String) : Decidable (db.HasWorkerNamed name) :=
  decidable_of_iff (∃ entry ∈ db.workers.rows.entries, entry.2.name = name) <| by
    simp only [HasWorkerNamed, ← Dictionary.exists_entries_iff]

/-- The account has an API key for workers with a name, revoked or not. -/
def OwnsWorkerKey (db : Database) (email name : String) : Prop :=
  ∃ id row, db.apiKeys.get id = some row ∧ row.ownerEmail = email ∧ row.name = "worker:" ++ name

variable {now : Int} {email name : String} {material : KeyMaterial}

theorem admits_workerKey_iff (fresh : material.Fresh db) :
    db.apiKeys.Admits ⟨"worker:" ++ name, material.hash, material.keyPrefix, email, none, false,
        now⟩ ↔ ¬ db.OwnsWorkerKey email name := by
  rw [GeneratedTable.admits_iff]
  constructor
  · rintro admits ⟨id, row, stored, owned, named⟩
    exact admits id row stored (Or.inr (Or.inr ⟨named.symm, owned.symm⟩))
  · intro free id row stored clash
    obtain ⟨otherHash, otherPrefix⟩ := fresh id row stored
    rcases clash with sameHash | ⟨-, samePrefix⟩ | ⟨sameName, sameOwner⟩
    · exact otherHash sameHash.symm
    · exact otherPrefix samePrefix.symm
    · exact free ⟨id, row, stored, sameOwner.symm, sameName.symm⟩

theorem exists_withWorkers_iff {rows : Dictionary WorkerId WorkerRow} :
    (∃ after, db.withWorkers rows = .ok after) ↔
      (∀ first row, rows.lookup first = some row → ∀ second other,
        rows.lookup second = some other →
        row.name = other.name ∨ row.apiKeyId = other.apiKeyId → first = second) ∧
      ∀ id row, rows.lookup id = some row → row.apiKeyId ∈ db.apiKeys.rows := by
  have distinct : (∀ entry ∈ rows.entries, ∀ other ∈ rows.entries,
      entry.2.name = other.2.name ∨ entry.2.apiKeyId = other.2.apiKeyId → entry.1 = other.1) ↔
      ∀ first row, rows.lookup first = some row → ∀ second other,
        rows.lookup second = some other →
        row.name = other.name ∨ row.apiKeyId = other.apiKeyId → first = second := by
    simp only [← Dictionary.forall_entries_iff]
  unfold withWorkers
  split_ifs with constraints known
  · exact ⟨fun _ => ⟨distinct.mp constraints, Dictionary.forall_entries_iff.mp known⟩,
      fun _ => ⟨_, rfl⟩⟩
  · constructor
    · rintro ⟨after, refused⟩
      cases refused
    · exact fun both => absurd (Dictionary.forall_entries_iff.mpr both.2) known
  · constructor
    · rintro ⟨after, refused⟩
      cases refused
    · exact fun both => absurd (distinct.mpr both.1) constraints

variable {id : WorkerId}

theorem exists_insertWorker_iff {row : WorkerRow} (fresh : id ∉ db.workers.rows)
    (known : row.createdBy ∈ db.accounts.users) (stored : row.apiKeyId ∈ db.apiKeys.rows)
    (unbound : ∀ other worker, db.workers.rows.lookup other = some worker →
      worker.apiKeyId ≠ row.apiKeyId) :
    (∃ after, db.insertWorker id row = .ok after) ↔ ¬ db.HasWorkerNamed row.name := by
  rw [insertWorker, if_neg fresh, if_pos known, exists_withWorkers_iff]
  constructor
  · rintro ⟨distinct, -⟩ ⟨other, worker, isWorker, named⟩
    have different : other ≠ id := by
      rintro rfl
      exact fresh (AList.lookup_isSome.mp (Option.isSome_of_mem isWorker))
    refine different (distinct other worker ?_ id row ?_ (Or.inl named))
    · rw [Dictionary.lookup_insert_eq, if_neg different, isWorker]
    · rw [Dictionary.lookup_insert_eq, if_pos rfl]
  · intro unused
    constructor
    · intro first worker isFirst second other isSecond clash
      rw [Dictionary.lookup_insert_eq] at isFirst isSecond
      split_ifs at isFirst isSecond with new newToo newToo
      · rw [new, newToo]
      · obtain rfl := Option.some.inj isFirst
        rcases clash with named | bound
        · exact absurd ⟨second, other, isSecond, named.symm⟩ unused
        · exact absurd bound.symm (unbound second other isSecond)
      · obtain rfl := Option.some.inj isSecond
        rcases clash with named | bound
        · exact absurd ⟨first, worker, isFirst, named⟩ unused
        · exact absurd bound (unbound first worker isFirst)
      · rcases clash with named | bound
        · exact db.workers.names first second worker other isFirst isSecond named
        · exact db.workers.keys first second worker other isFirst isSecond bound
    · intro other worker isWorker
      rw [Dictionary.lookup_insert_eq] at isWorker
      split_ifs at isWorker
      · obtain rfl := Option.some.inj isWorker
        exact stored
      · exact db.bound other worker isWorker

variable {key : ApiKeyRow} {keyId : Int} {worker : WorkerRow} {arch : Arch}
  (inserted : KeyInserted db key after keyId)
include inserted

theorem KeyInserted.unbound (isWorker : after.workers.rows.lookup id = some worker) :
    worker.apiKeyId ≠ keyId := by
  rw [inserted.workers] at isWorker
  have old := db.apiKeys.bounded _ (db.bound id worker isWorker)
  rw [inserted.id_eq, GeneratedTable.nextId]
  omega

theorem KeyInserted.mem : keyId ∈ after.apiKeys.rows :=
  (GeneratedTable.mem_insert inserted.inserted).mpr (Or.inl inserted.id_eq)

theorem KeyInserted.exists_insertWorker_iff (unused : id ∉ db.workers.rows) :
    (∃ final, after.insertWorker id ⟨name, arch, keyId, key.ownerEmail⟩ = .ok final) ↔
      ¬ db.HasWorkerNamed name := by
  rw [Database.exists_insertWorker_iff]
  · rw [HasWorkerNamed, inserted.workers, HasWorkerNamed]
  · rwa [inserted.workers]
  · rw [inserted.users]
    exact inserted.owner
  · exact inserted.mem
  · exact fun other worker isWorker => inserted.unbound isWorker

/-- A worker can always be bound to a key that was just handed out. -/
theorem KeyInserted.exists_updateApiKeyId (id : WorkerId) :
    ∃ bound, after.updateApiKeyId id keyId = .ok bound := by
  refine exists_withWorkers_iff.mpr ⟨?_, ?_⟩
  · intro first row isFirst second other isSecond clash
    rw [Dictionary.lookup_modify] at isFirst isSecond
    split_ifs at isFirst isSecond with changed changedToo changedToo
    · rw [changed, changedToo]
    · obtain ⟨old, isOld, rfl⟩ := Option.map_eq_some_iff.mp isFirst
      rcases clash with named | bound
      · exact after.workers.names first second old other isOld isSecond named
      · exact absurd bound.symm (inserted.unbound isSecond)
    · obtain ⟨old, isOld, rfl⟩ := Option.map_eq_some_iff.mp isSecond
      rcases clash with named | bound
      · exact after.workers.names first second row old isFirst isOld named
      · exact absurd bound (inserted.unbound isFirst)
    · rcases clash with named | bound
      · exact after.workers.names first second row other isFirst isSecond named
      · exact after.workers.keys first second row other isFirst isSecond bound
  · intro other row isOther
    rw [Dictionary.lookup_modify] at isOther
    split_ifs at isOther
    · obtain ⟨old, -, rfl⟩ := Option.map_eq_some_iff.mp isOther
      exact inserted.mem
    · exact after.bound other row isOther

omit inserted

/-- A worker can be registered if the name is free and the caller has never had a key for it. -/
theorem exists_registerWorker_iff
    (known : email ∈ db.accounts.users) (unused : id ∉ db.workers.rows)
    (fresh : material.Fresh db) :
    (∃ after, db.registerWorker now email id name arch material = .ok after) ↔
      ¬ db.OwnsWorkerKey email name ∧ ¬ db.HasWorkerNamed name := by
  constructor
  · rintro ⟨after, registered⟩
    obtain ⟨⟨issued, keyId⟩, inserted, stored⟩ := bind_eq_ok.mp registered
    have spec := keyInserted_of_insertApiKey inserted
    exact ⟨(admits_workerKey_iff fresh).mp spec.admits,
      (spec.exists_insertWorker_iff unused).mp ⟨after, stored⟩⟩
  · rintro ⟨free, unnamed⟩
    obtain ⟨⟨issued, keyId⟩, inserted⟩ :=
      exists_insertApiKey_iff.mpr ⟨(admits_workerKey_iff fresh).mpr free, known⟩
    have spec := keyInserted_of_insertApiKey inserted
    obtain ⟨after, stored⟩ := (spec.exists_insertWorker_iff unused).mpr unnamed
    exact ⟨after, bind_eq_ok.mpr ⟨(issued, keyId), inserted, stored⟩⟩

/-- The key of a worker can be replaced if the caller has never had a key for its name. -/
theorem exists_regenerateToken_iff (known : email ∈ db.accounts.users) (fresh : material.Fresh db) :
    (∃ outcome, db.regenerateToken now email id worker material = .ok outcome) ↔
      ¬ db.OwnsWorkerKey email worker.name := by
  constructor
  · rintro ⟨outcome, replaced⟩
    obtain ⟨⟨issued, keyId⟩, inserted, -⟩ := bind_eq_ok.mp replaced
    exact (admits_workerKey_iff fresh).mp (keyInserted_of_insertApiKey inserted).admits
  · intro free
    obtain ⟨⟨issued, keyId⟩, inserted⟩ :=
      exists_insertApiKey_iff.mpr ⟨(admits_workerKey_iff fresh).mpr free, known⟩
    obtain ⟨bound, rebound⟩ := (keyInserted_of_insertApiKey inserted).exists_updateApiKeyId id
    exact ⟨_, bind_eq_ok.mpr ⟨(issued, keyId), inserted, bind_eq_ok.mpr ⟨bound, rebound, rfl⟩⟩⟩

def Binds (db : Database) (id : WorkerId) (keyId : Int) : Prop :=
  ∃ worker, db.workers.rows.lookup id = some worker ∧ worker.apiKeyId = keyId

def KeyFlag (db : Database) (keyId : Int) (revoked : Bool) : Prop :=
  ∃ key, db.apiKeys.get keyId = some key ∧ key.revoked = revoked

/-- Every worker is bound to a key that is not revoked. -/
def BoundLive (db : Database) : Prop :=
  ∀ id keyId, db.Binds id keyId → db.KeyFlag keyId false

/-- What a request does to the bindings: a key that was bound stays bound to its worker or is
revoked, and a key that is bound was so before or is new. -/
structure Rebinds (before after : Database) : Prop where
  evolves : before.Evolves after
  kept : ∀ id keyId, before.Binds id keyId → after.Binds id keyId ∨ after.KeyFlag keyId true
  live : before.BoundLive → after.BoundLive

theorem Rebinds.refl (db : Database) : db.Rebinds db :=
  ⟨.refl db, fun _ _ => Or.inl, id⟩

theorem Evolves.keyFlag_true (evolves : db.Evolves after)
    (revoked : db.KeyFlag keyId true) : after.KeyFlag keyId true := by
  obtain ⟨key, stored, flag⟩ := revoked
  have kept := evolves.kept keyId (AList.lookup_isSome.mp (Option.isSome_of_mem stored))
  obtain ⟨later, found⟩ := Option.isSome_iff_exists.mp (AList.lookup_isSome.mpr kept)
  obtain ⟨old, storedOld, continues⟩ :=
    evolves.apiKeys.rows keyId later found (GeneratedTable.le_of_get stored)
  obtain rfl := Option.some.inj (stored.symm.trans storedOld)
  exact ⟨later, found, continues.revoked flag⟩

variable {other : Int} {flag : Bool}

theorem KeyInserted.keyFlag
    (inserted : KeyInserted db key after keyId) (stored : db.KeyFlag other flag) :
    after.KeyFlag other flag := by
  obtain ⟨row, found, isFlag⟩ := stored
  exact ⟨row, inserted.get_of_get found, isFlag⟩

theorem KeyInserted.keyFlag_new
    (inserted : KeyInserted db key after keyId) : after.KeyFlag keyId key.revoked := by
  refine ⟨key, ?_, rfl⟩
  rw [inserted.get, if_pos inserted.id_eq]

theorem keyFlag_revokeApiKeyById (stored : db.KeyFlag other flag)
    (different : other ≠ keyId) : (db.revokeApiKeyById keyId).1.KeyFlag other flag := by
  obtain ⟨key, found, isFlag⟩ := stored
  refine ⟨key, get_revokeApiKeys.mpr ⟨key, found, ?_⟩, isFlag⟩
  rw [if_neg (by simpa using different)]

theorem keyFlag_revokeApiKeyById_self (stored : db.KeyFlag keyId flag) :
    (db.revokeApiKeyById keyId).1.KeyFlag keyId true := by
  obtain ⟨key, found, -⟩ := stored
  refine ⟨{ key with revoked := true }, get_revokeApiKeys.mpr ⟨key, found, ?_⟩, rfl⟩
  rw [if_pos (by simp)]

theorem exists_keyFlag (isWorker : db.workers.rows.lookup id = some worker) :
    ∃ flag, db.KeyFlag worker.apiKeyId flag := by
  obtain ⟨key, found⟩ :=
    Option.isSome_iff_exists.mp (AList.lookup_isSome.mpr (db.bound id worker isWorker))
  exact ⟨key.revoked, key, found, rfl⟩

variable {revoked : List Int}

theorem lookup_deregisterWorker (db : Database) (id other : WorkerId) (worker : WorkerRow) :
    (db.deregisterWorker id worker).1.workers.rows.lookup other =
      if other = id then none else db.workers.rows.lookup other :=
  Dictionary.lookup_erase_eq db.workers.rows id other

theorem rebinds_registerWorker
    (registered : db.registerWorker now email id name arch material = .ok after) :
    db.Rebinds after := by
  obtain ⟨evolves, -, issued, keyId, spec, sameKeys, unused, rows⟩ :=
    registerWorker_eq_ok registered
  refine ⟨evolves, ?_, ?_⟩
  · rintro other key ⟨worker, isWorker, rfl⟩
    have different : other ≠ id := by
      rintro rfl
      exact unused (AList.lookup_isSome.mp (Option.isSome_of_mem isWorker))
    exact Or.inl ⟨worker, by rw [rows, if_neg different, isWorker], rfl⟩
  · rintro live other key ⟨worker, isWorker, rfl⟩
    rw [KeyFlag, sameKeys]
    rw [rows] at isWorker
    split_ifs at isWorker
    · obtain rfl := Option.some.inj isWorker
      exact spec.keyFlag_new
    · exact spec.keyFlag (live other worker.apiKeyId ⟨worker, isWorker, rfl⟩)

theorem rebinds_deregisterWorker (isWorker : db.workers.rows.lookup id = some worker) :
    db.Rebinds (db.deregisterWorker id worker).1 := by
  refine ⟨evolves_deregisterWorker id worker, ?_, ?_⟩
  · rintro other key ⟨row, isRow, rfl⟩
    by_cases same : other = id
    · subst same
      obtain rfl := Option.some.inj (isWorker.symm.trans isRow)
      obtain ⟨flag, stored⟩ := exists_keyFlag isWorker
      exact Or.inr (keyFlag_revokeApiKeyById_self stored)
    · exact Or.inl ⟨row, by rw [lookup_deregisterWorker, if_neg same, isRow], rfl⟩
  · rintro live other key ⟨row, isRow, rfl⟩
    rw [lookup_deregisterWorker] at isRow
    split_ifs at isRow with same
    refine keyFlag_revokeApiKeyById (live other row.apiKeyId ⟨row, isRow, rfl⟩) fun shared => ?_
    exact same (db.workers.keys other id row worker isRow isWorker shared)

theorem rebinds_regenerateToken (isWorker : db.workers.rows.lookup id = some worker)
    (replaced : db.regenerateToken now email id worker material = .ok (after, revoked)) :
    db.Rebinds after := by
  have evolves := evolves_regenerateToken replaced
  obtain ⟨issued, bound, keyId, spec, sameKeys, -, -, ⟨rfl, -⟩, rows⟩ :=
    regenerateToken_eq_ok replaced
  have flags {other : Int} {flag : Bool} (stored : issued.KeyFlag other flag) :
      bound.KeyFlag other flag := by rwa [KeyFlag, sameKeys]
  refine ⟨evolves, ?_, ?_⟩
  · rintro other key ⟨row, isRow, rfl⟩
    by_cases same : other = id
    · subst same
      obtain rfl := Option.some.inj (isWorker.symm.trans isRow)
      obtain ⟨flag, stored⟩ := exists_keyFlag isWorker
      exact Or.inr (keyFlag_revokeApiKeyById_self (flags (spec.keyFlag stored)))
    · exact Or.inl ⟨row, by rw [rows, if_neg same, isRow], rfl⟩
  · rintro live other key ⟨row, isRow, rfl⟩
    rw [rows] at isRow
    split_ifs at isRow with same
    · obtain ⟨old, -, rfl⟩ := Option.map_eq_some_iff.mp isRow
      have unbound : worker.apiKeyId ≠ keyId := spec.unbound (spec.workers ▸ isWorker)
      exact keyFlag_revokeApiKeyById (flags spec.keyFlag_new) unbound.symm
    · refine keyFlag_revokeApiKeyById
        (flags (spec.keyFlag (live other row.apiKeyId ⟨row, isRow, rfl⟩))) fun shared => ?_
      exact same (db.workers.keys other id row worker isRow isWorker shared)

end Constraints

end Database

theorem db_run_purgeKey (lookupFails : Bool) (keyId : Int) (state : AuthState) :
    ((purgeKey lookupFails keyId).run state).1.db = state.db := by
  unfold purgeKey
  split_ifs
  · rfl
  · rw [Routine.bind_eq, Routine.run_bind, run_query]
    split <;> rfl

section Outcomes

variable {call : WorkerCall} {id : WorkerId} {material : KeyMaterial} {lookupFails : Bool}
  {worker : WorkerRow} {state : AuthState} {name text : String} (sensible : call.Sensible state.db)
include sensible

theorem complete_register {arch : Arch} (asks : call.request = .register name text id material)
    (valid : isValidWorkerName name = true) (isArch : archOfText text = some arch) :
    (∃ reason, state.db.registerWorker call.env.now call.caller.email id name arch material =
        .error reason ∧ call.complete state = state ∧
        call.response state = .error reason.registerError) ∨
      ∃ after, state.db.registerWorker call.env.now call.caller.email id name arch material =
        .ok after ∧ call.complete state = { state with db := after } ∧
        call.response state = .ok (.worker id name arch ⟨id, name, material.plaintext, arch⟩) := by
  simp only [WorkerCall.complete, WorkerCall.response, WorkerCall.task, asks, registerWorker]
  rw [requireCap_eq_ok.mpr sensible.capable, isArch]
  simp only [require, if_pos valid, orError, orRefuse_ok, Routine.bind_eq, Routine.run_bind,
    run_transaction]
  cases attempted : state.db.registerWorker call.env.now call.caller.email id name arch
    material with
  | error reason =>
    left
    rw [Database.commit_of_error (by rw [attempted]; rfl)]
    exact ⟨reason, rfl, rfl, rfl⟩
  | ok after =>
    right
    rw [Database.commit_of_ok (by rw [attempted]; rfl)]
    exact ⟨after, rfl, rfl, rfl⟩

theorem complete_register_invalid (asks : call.request = .register name text id material)
    (invalid : isValidWorkerName name = true → archOfText text = none) :
    call.complete state = state ∧ ∃ error, call.response state = .error error := by
  simp only [WorkerCall.complete, WorkerCall.response, WorkerCall.task, asks, registerWorker]
  rw [requireCap_eq_ok.mpr sensible.capable]
  by_cases valid : isValidWorkerName name = true
  · rw [invalid valid]
    simp only [require, if_pos valid, orError, orRefuse_ok, orRefuse_error]
    exact ⟨rfl, _, rfl⟩
  · simp only [require, if_neg valid, orRefuse_ok, orRefuse_error]
    exact ⟨rfl, _, rfl⟩

theorem complete_regenerate (asks : call.request = .regenerate id material lookupFails)
    (isWorker : state.db.workers.rows.lookup id = some worker) :
    (∃ reason, state.db.regenerateToken call.env.now call.caller.email id worker material =
        .error reason ∧ call.complete state = state ∧
        call.response state = .error ⟨.internalServerError, "database error"⟩) ∨
      ∃ after revoked, state.db.regenerateToken call.env.now call.caller.email id worker material =
        .ok (after, revoked) ∧ (call.complete state).db = after ∧
        call.response state = .ok (.worker id worker.name worker.arch
          ⟨id, worker.name, material.plaintext, worker.arch⟩) := by
  have found : state.db.getWorkerById id = some worker := isWorker
  simp only [WorkerCall.complete, WorkerCall.response, WorkerCall.task, asks,
    regenerateWorkerToken]
  rw [requireCap_eq_ok.mpr sensible.capable]
  simp only [orRefuse_ok, Routine.bind_eq, Routine.run_bind, run_query, found,
    orError, run_transaction]
  cases attempted : state.db.regenerateToken call.env.now call.caller.email id worker material with
  | error reason =>
    left
    rw [Database.commit_of_error attempted]
    exact ⟨reason, rfl, rfl, rfl⟩
  | ok outcome =>
    obtain ⟨after, revoked⟩ := outcome
    right
    rw [Database.commit_of_ok attempted]
    refine ⟨after, revoked, rfl, ?_, ?_⟩
    · exact (congrArg (fun result : AuthState × Reply => result.1.db) (Routine.run_bind ..)).trans
        (db_run_purgeKey ..)
    · exact congrArg (fun result : AuthState × Reply => result.2.response) (Routine.run_bind ..)

theorem complete_deregister (asks : call.request = .deregister id lookupFails)
    (isWorker : state.db.workers.rows.lookup id = some worker) :
    (call.complete state).db = (state.db.deregisterWorker id worker).1 := by
  have found : state.db.getWorkerById id = some worker := isWorker
  simp only [WorkerCall.complete, WorkerCall.task, asks, deregisterWorker]
  rw [requireCap_eq_ok.mpr sensible.capable]
  simp only [orRefuse_ok, Routine.bind_eq, Routine.run_bind, run_query, found,
    orError, run_execute]
  exact db_run_purgeKey ..

theorem complete_missing (missing : state.db.workers.rows.lookup id = none)
    (asks : (∃ material, call.request = .regenerate id material lookupFails) ∨
      call.request = .deregister id lookupFails) : call.complete state = state := by
  have notFound : state.db.getWorkerById id = none := missing
  have capable := requireCap_eq_ok.mpr sensible.capable
  rcases asks with ⟨material, asks⟩ | asks <;>
    simp only [WorkerCall.complete, WorkerCall.task, asks, regenerateWorkerToken, deregisterWorker,
      capable, orRefuse_ok, Routine.bind_eq, Routine.run_bind, run_query, notFound,
      orError, orRefuse_error, Routine.run_done]

end Outcomes

variable {call : WorkerCall} {state : AuthState}

/-- Every request keeps usable keys bound and revokes the others. -/
theorem rebinds_complete (sensible : call.Sensible state.db) :
    state.db.Rebinds (call.complete state).db := by
  obtain ⟨env, caller, request⟩ := call
  cases request with
  | register name text id material =>
    by_cases checked : isValidWorkerName name = true → archOfText text = none
    · rw [(complete_register_invalid sensible rfl checked).1]
      exact Database.Rebinds.refl state.db
    · obtain ⟨valid, hasArch⟩ := Classical.not_imp.mp checked
      obtain ⟨arch, isArch⟩ := Option.ne_none_iff_exists'.mp hasArch
      obtain ⟨reason, -, same, -⟩ | ⟨after, registered, changed, -⟩ :=
        complete_register sensible rfl valid isArch
      · rw [same]
        exact Database.Rebinds.refl state.db
      · rw [changed]
        exact Database.rebinds_registerWorker registered
  | regenerate id material lookupFails =>
    cases isWorker : state.db.workers.rows.lookup id with
    | none =>
      rw [complete_missing sensible isWorker (Or.inl ⟨_, rfl⟩)]
      exact Database.Rebinds.refl state.db
    | some worker =>
      obtain ⟨reason, -, same, -⟩ | ⟨after, revoked, replaced, changed, -⟩ :=
        complete_regenerate sensible rfl isWorker
      · rw [same]
        exact Database.Rebinds.refl state.db
      · rw [changed]
        exact Database.rebinds_regenerateToken isWorker replaced
  | deregister id lookupFails =>
    cases isWorker : state.db.workers.rows.lookup id with
    | none =>
      rw [complete_missing sensible isWorker (Or.inr rfl)]
      exact Database.Rebinds.refl state.db
    | some worker =>
      rw [complete_deregister sensible rfl isWorker]
      exact Database.rebinds_deregisterWorker isWorker

/-- The call behaves as the routes for workers describe it. -/
def WorkerCall.AsClaimed (call : WorkerCall) (state : AuthState) : Prop :=
  match call.request with
  | .register name _ _ _ => call.Succeeds state ↔ ¬ state.db.HasWorkerNamed name
  | .regenerate id _ _ => id ∈ state.db.workers.rows → call.Succeeds state
  | .deregister _ _ => True

/-- The caller has never had a key for the name of the worker; for a registration the name is taken,
or the request is valid as well. -/
def WorkerCall.Unhindered (call : WorkerCall) (db : Database) : Prop :=
  match call.request with
  | .register name arch _ _ =>
    db.HasWorkerNamed name ∨
      isValidWorkerName name = true ∧ (archOfText arch).isSome = true ∧
        ¬ db.OwnsWorkerKey call.caller.email name
  | .regenerate id _ _ =>
    ∀ worker, db.workers.rows.lookup id = some worker →
      ¬ db.OwnsWorkerKey call.caller.email worker.name
  | .deregister _ _ => True

theorem WorkerCall.succeeds_of_ok
    {response : CredentialResponse} (answer : call.response state = .ok response) :
    call.Succeeds state :=
  ⟨response, answer⟩

theorem WorkerCall.not_succeeds_of_error {error : AuthError}
    (answer : call.response state = .error error) : ¬ call.Succeeds state := by
  rintro ⟨response, isOk⟩
  cases answer.symm.trans isOk

variable {id : WorkerId} {material : KeyMaterial} (sensible : call.Sensible state.db)
include sensible

theorem succeeds_register_iff {name text : String}
    (asks : call.request = .register name text id material) :
    call.Succeeds state ↔ (isValidWorkerName name = true ∧ (archOfText text).isSome = true) ∧
      ¬ state.db.OwnsWorkerKey call.caller.email name ∧ ¬ state.db.HasWorkerNamed name := by
  obtain ⟨unused, fresh⟩ : id ∉ state.db.workers.rows ∧ material.Fresh state.db := by
    simpa only [asks, WorkerRequest.Sensible] using sensible.request
  by_cases checked : isValidWorkerName name = true ∧ (archOfText text).isSome = true
  swap
  · have invalid : isValidWorkerName name = true → archOfText text = none := by
      intro valid
      simpa [valid] using checked
    obtain ⟨error, answer⟩ := (complete_register_invalid sensible asks invalid).2
    exact iff_of_false (WorkerCall.not_succeeds_of_error answer) fun both => checked both.1
  rw [and_iff_right checked]
  obtain ⟨arch, isArch⟩ := Option.isSome_iff_exists.mp checked.2
  have accepted : (∃ after, state.db.registerWorker call.env.now call.caller.email id name arch
      material = .ok after) ↔ _ := Database.exists_registerWorker_iff sensible.known unused fresh
  rw [← accepted]
  obtain ⟨reason, refused, -, answer⟩ | ⟨after, registered, -, answer⟩ :=
    complete_register sensible asks checked.1 isArch
  · rw [refused]
    simpa using WorkerCall.not_succeeds_of_error answer
  · rw [registered]
    simpa using WorkerCall.succeeds_of_ok answer

theorem succeeds_regenerate_iff {worker : WorkerRow} {lookupFails : Bool}
    (asks : call.request = .regenerate id material lookupFails)
    (isWorker : state.db.workers.rows.lookup id = some worker) :
    call.Succeeds state ↔ ¬ state.db.OwnsWorkerKey call.caller.email worker.name := by
  have fresh : material.Fresh state.db := by
    simpa only [asks, WorkerRequest.Sensible] using sensible.request
  have accepted : (∃ outcome, state.db.regenerateToken call.env.now call.caller.email id worker
      material = .ok outcome) ↔ _ := Database.exists_regenerateToken_iff sensible.known fresh
  rw [← accepted]
  obtain ⟨reason, refused, -, answer⟩ | ⟨after, revoked, replaced, -, answer⟩ :=
    complete_regenerate sensible asks isWorker
  · rw [refused]
    simpa using WorkerCall.not_succeeds_of_error answer
  · rw [replaced]
    simpa using WorkerCall.succeeds_of_ok answer

theorem asClaimed_iff :
    call.AsClaimed state ↔ call.Unhindered state.db := by
  obtain ⟨env, caller, request⟩ := call
  cases request with
  | register name text id material =>
    have succeeds := succeeds_register_iff sensible rfl
    simp only [WorkerCall.AsClaimed, WorkerCall.Unhindered, succeeds]
    tauto
  | regenerate id material lookupFails =>
    simp only [WorkerCall.AsClaimed, WorkerCall.Unhindered]
    constructor
    · intro claimed worker isWorker
      have present := AList.lookup_isSome.mp (Option.isSome_of_mem isWorker)
      exact (succeeds_regenerate_iff sensible rfl isWorker).mp (claimed present)
    · intro unhindered present
      obtain ⟨worker, isWorker⟩ := Option.isSome_iff_exists.mp (AList.lookup_isSome.mpr present)
      exact (succeeds_regenerate_iff sensible rfl isWorker).mpr (unhindered worker isWorker)
  | deregister id lookupFails => exact Iff.rfl

omit sensible

theorem boundLive_new (accounts : Accounts) : (Database.new accounts).BoundLive := by
  rintro id keyId ⟨worker, isWorker, -⟩
  cases isWorker

theorem completeWorkers_append (first second : List WorkerCall) (state : AuthState) :
    completeWorkers (first ++ second) state =
      completeWorkers second (completeWorkers first state) :=
  List.foldl_append ..

variable {calls : List WorkerCall}

theorem boundLive_completeWorkers (sensible : SensibleRun calls state) (live : state.db.BoundLive) :
    (completeWorkers calls state).db.BoundLive := by
  induction calls generalizing state with
  | nil => exact live
  | cons call calls hypothesis =>
    exact hypothesis sensible.2 ((rebinds_complete sensible.1).live live)

variable {keyId : Int}

theorem keyFlag_completeWorkers
    (sensible : SensibleRun calls state) (revoked : state.db.KeyFlag keyId true) :
    (completeWorkers calls state).db.KeyFlag keyId true := by
  induction calls generalizing state with
  | nil => exact revoked
  | cons call calls hypothesis =>
    exact hypothesis sensible.2 ((rebinds_complete sensible.1).evolves.keyFlag_true revoked)

/-- A key that was bound to a worker stays bound to it or is revoked. -/
theorem binds_completeWorkers
    (sensible : SensibleRun calls state) (binds : state.db.Binds id keyId) :
    (completeWorkers calls state).db.Binds id keyId ∨
      (completeWorkers calls state).db.KeyFlag keyId true := by
  induction calls generalizing state with
  | nil => exact Or.inl binds
  | cons call calls hypothesis =>
    rcases (rebinds_complete sensible.1).kept id keyId binds with stays | revoked
    · exact hypothesis sensible.2 stays
    · have final := keyFlag_completeWorkers sensible.2 revoked
      exact Or.inr final

theorem SensibleRun.drop {first second : List WorkerCall}
    (sensible : SensibleRun (first ++ second) state) :
    SensibleRun second (completeWorkers first state) := by
  induction first generalizing state with
  | nil => exact sensible
  | cons call first hypothesis => exact hypothesis sensible.2

/-- Along every sequence of requests on workers, every worker is bound to one usable key and every
key that was bound before is revoked; a registration with a free name and a replacement succeed
exactly when the caller has never had a key for that name (and what is registered is valid). -/
theorem worker_credentials_follow_lifecycle_iff (accounts : Accounts) (cache : TokenCache)
    (calls : List WorkerCall) (sensible : SensibleRun calls ⟨.new accounts, cache⟩) :
    (completeWorkers calls ⟨.new accounts, cache⟩).db.BoundLive ∧
      (∀ first second id keyId, calls = first ++ second →
        (completeWorkers first ⟨.new accounts, cache⟩).db.Binds id keyId →
        (completeWorkers calls ⟨.new accounts, cache⟩).db.Binds id keyId ∨
          (completeWorkers calls ⟨.new accounts, cache⟩).db.KeyFlag keyId true) ∧
      ∀ call : WorkerCall, call.Sensible (completeWorkers calls ⟨.new accounts, cache⟩).db →
        (call.AsClaimed (completeWorkers calls ⟨.new accounts, cache⟩) ↔
          call.Unhindered (completeWorkers calls ⟨.new accounts, cache⟩).db) := by
  refine ⟨boundLive_completeWorkers sensible (boundLive_new accounts), ?_, ?_⟩
  · rintro first second id keyId rfl binds
    rw [completeWorkers_append]
    exact binds_completeWorkers sensible.drop binds
  · exact fun call further => asClaimed_iff further

def aliceManages (request : WorkerRequest) : WorkerCall :=
  ⟨.plain, alice, request⟩

/-- After two registrations both workers have a usable key. -/
theorem two_registered_workers_bound :
    SensibleRun [aliceManages (.register "builder" "x86_64" "w1" (apiKeyOf '1')),
        aliceManages (.register "spare" "aarch64" "w2" (apiKeyOf '2'))]
        ⟨.new singleAdmin, .new 16 (by decide)⟩ ∧
      (completeWorkers [aliceManages (.register "builder" "x86_64" "w1" (apiKeyOf '1')),
        aliceManages (.register "spare" "aarch64" "w2" (apiKeyOf '2'))]
        ⟨.new singleAdmin, .new 16 (by decide)⟩).db.BoundLive :=
  ⟨by decide, (worker_credentials_follow_lifecycle_iff singleAdmin (.new 16 (by decide)) _
    (by decide)).1⟩

/-- The administrator who registered a worker cannot replace its key, and once the worker is gone
cannot register its name again. -/
theorem registrar_cannot_renew_worker :
    (aliceManages (.regenerate "w1" (apiKeyOf '2') false)).response
        (completeWorkers [aliceManages (.register "builder" "x86_64" "w1" (apiKeyOf '1'))]
          ⟨.new singleAdmin, .new 16 (by decide)⟩) =
        .error ⟨.internalServerError, "database error"⟩ ∧
      ¬ (completeWorkers [aliceManages (.register "builder" "x86_64" "w1" (apiKeyOf '1')),
          aliceManages (.deregister "w1" false)]
          ⟨.new singleAdmin, .new 16 (by decide)⟩).db.HasWorkerNamed "builder" ∧
      (aliceManages (.register "builder" "x86_64" "w2" (apiKeyOf '2'))).response
        (completeWorkers [aliceManages (.register "builder" "x86_64" "w1" (apiKeyOf '1')),
          aliceManages (.deregister "w1" false)] ⟨.new singleAdmin, .new 16 (by decide)⟩) =
        .error ⟨.conflict, "worker name already exists"⟩ := by
  decide

end Cbs

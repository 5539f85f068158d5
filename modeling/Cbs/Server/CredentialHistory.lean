import Cbs.Server.Holders
import Cbs.Server.RobotRequests

/-!
# Histories of credentials

Whatever happens to the credential tables, a key of a row is not used again, a row keeps its owner
and its prefix, and a revoked token stays revoked.
-/

namespace Cbs

open Concurrency Checks

/-- What both token tables store about a token. -/
structure TokenInfo where
  ownerEmail : String
  tokenPrefix : String
  revoked : Bool
  deriving DecidableEq

def ApiKeyRow.info (row : ApiKeyRow) : TokenInfo :=
  ⟨row.ownerEmail, row.keyPrefix, row.revoked⟩

def RobotTokenRow.info (row : RobotTokenRow) : TokenInfo :=
  ⟨row.robotEmail, row.tokenPrefix, row.revoked⟩

structure TokenInfo.Continues (before after : TokenInfo) : Prop where
  owner : before.ownerEmail = after.ownerEmail
  tokenPrefix : before.tokenPrefix = after.tokenPrefix
  revoked : before.revoked = true → after.revoked = true

theorem TokenInfo.Continues.refl (info : TokenInfo) : info.Continues info :=
  ⟨rfl, rfl, id⟩

theorem TokenInfo.Continues.trans {first second third : TokenInfo}
    (earlier : first.Continues second) (later : second.Continues third) :
    first.Continues third where
  owner := earlier.owner.trans later.owner
  tokenPrefix := earlier.tokenPrefix.trans later.tokenPrefix
  revoked := fun revoked => later.revoked (earlier.revoked revoked)

namespace Database

/-- What is stored about a token. -/
def token (db : Database) (ref : TokenRef) : Option TokenInfo :=
  match ref.kind with
  | .apiKey => (db.apiKeys.get ref.id).map ApiKeyRow.info
  | .robotToken => (db.robotTokens.get ref.id).map RobotTokenRow.info

/-- The key of the row has been handed out. -/
def Issued (db : Database) (ref : TokenRef) : Prop :=
  match ref.kind with
  | .apiKey => ref.id ≤ db.apiKeys.sequence
  | .robotToken => ref.id ≤ db.robotTokens.sequence

def isLive (db : Database) (ref : TokenRef) : Bool :=
  (db.token ref).any (!·.revoked)

variable {db : Database} {ref : TokenRef}

theorem isLive_iff :
    db.isLive ref = true ↔ ∃ info, db.token ref = some info ∧ info.revoked = false := by
  simp [isLive, Option.any_eq_true]

theorem issued_of_token {info : TokenInfo} (stored : db.token ref = some info) : db.Issued ref := by
  obtain ⟨kind, id⟩ := ref
  cases kind with
  | apiKey | robotToken =>
    obtain ⟨row, found, -⟩ := Option.map_eq_some_iff.mp stored
    exact GeneratedTable.le_of_get found

structure Evolves (before after : Database) : Prop where
  apiKeys : GeneratedTable.Evolves (fun row later => row.info.Continues later.info)
    before.apiKeys after.apiKeys
  robotTokens : GeneratedTable.Evolves (fun row later => row.info.Continues later.info)
    before.robotTokens after.robotTokens
  kept : ∀ id ∈ before.apiKeys.rows, id ∈ after.apiKeys.rows

section Histories

variable {before middle after db : Database} {ref : TokenRef} {info : TokenInfo}

theorem Evolves.trans (first : before.Evolves middle) (second : middle.Evolves after) :
    before.Evolves after where
  apiKeys := first.apiKeys.trans (fun _ _ _ => .trans) second.apiKeys
  robotTokens := first.robotTokens.trans (fun _ _ _ => .trans) second.robotTokens
  kept := fun id inside => second.kept id (first.kept id inside)

theorem evolves_of_eq (sameKeys : after.apiKeys = before.apiKeys)
    (sameTokens : after.robotTokens = before.robotTokens) : before.Evolves after where
  apiKeys := by
    rw [sameKeys]
    exact .refl (fun row => .refl row.info) before.apiKeys
  robotTokens := by
    rw [sameTokens]
    exact .refl (fun row => .refl row.info) before.robotTokens
  kept := by simp [sameKeys]

theorem Evolves.refl (db : Database) : db.Evolves db :=
  evolves_of_eq rfl rfl

theorem Evolves.issued (evolves : before.Evolves after) (issued : before.Issued ref) :
    after.Issued ref := by
  obtain ⟨kind, id⟩ := ref
  cases kind with
  | apiKey => exact Int.le_trans issued evolves.apiKeys.sequence
  | robotToken => exact Int.le_trans issued evolves.robotTokens.sequence

theorem Evolves.token (evolves : before.Evolves after) (issued : before.Issued ref)
    (stored : after.token ref = some info) :
    ∃ old, before.token ref = some old ∧ old.Continues info := by
  obtain ⟨kind, id⟩ := ref
  cases kind with
  | apiKey =>
    obtain ⟨row, found, rfl⟩ := Option.map_eq_some_iff.mp stored
    obtain ⟨old, foundOld, continues⟩ := evolves.apiKeys.rows id row found issued
    exact ⟨old.info, Option.map_eq_some_iff.mpr ⟨old, foundOld, rfl⟩, continues⟩
  | robotToken =>
    obtain ⟨row, found, rfl⟩ := Option.map_eq_some_iff.mp stored
    obtain ⟨old, foundOld, continues⟩ := evolves.robotTokens.rows id row found issued
    exact ⟨old.info, Option.map_eq_some_iff.mpr ⟨old, foundOld, rfl⟩, continues⟩

/-- A token that is not usable does not become usable again. -/
theorem Evolves.isLive (evolves : before.Evolves after) (issued : before.Issued ref)
    (live : after.isLive ref = true) : before.isLive ref = true := by
  obtain ⟨info, stored, notRevoked⟩ := isLive_iff.mp live
  obtain ⟨old, storedOld, continues⟩ := evolves.token issued stored
  refine isLive_iff.mpr ⟨old, storedOld, ?_⟩
  cases revoked : old.revoked with
  | false => rfl
  | true => rw [continues.revoked revoked] at notRevoked; cases notRevoked

variable {id : Int} {keyPrefix : String}

/-- The prefix of an API key can always be read. -/
theorem Evolves.getKeyPrefixById (evolves : before.Evolves after)
    (stored : before.getKeyPrefixById id = some keyPrefix) :
    after.getKeyPrefixById id = some keyPrefix := by
  obtain ⟨row, found, rfl⟩ := Option.map_eq_some_iff.mp stored
  have kept : id ∈ after.apiKeys.rows :=
    evolves.kept id (AList.lookup_isSome.mp (Option.isSome_of_mem found))
  obtain ⟨later, foundLater⟩ := Option.isSome_iff_exists.mp (AList.lookup_isSome.mpr kept)
  obtain ⟨old, foundOld, continues⟩ :=
    evolves.apiKeys.rows id later foundLater (GeneratedTable.le_of_get found)
  obtain rfl := Option.some.inj (found.symm.trans foundOld)
  exact Option.map_eq_some_iff.mpr ⟨later, foundLater, continues.tokenPrefix.symm⟩

theorem evolves_withAccounts (accounts : Accounts) : db.Evolves (db.withAccounts accounts) :=
  evolves_of_eq rfl rfl

theorem evolves_withApiKeys {table : GeneratedTable ApiKeyRow ApiKeyRow.Clash}
    (covers : ∀ id ∈ db.apiKeys.rows, id ∈ table.rows)
    (goesOn : GeneratedTable.Evolves (fun row later => row.info.Continues later.info)
      db.apiKeys table) : db.Evolves (db.withApiKeys table covers) where
  apiKeys := goesOn
  robotTokens := .refl (fun row => .refl row.info) db.robotTokens
  kept := covers

structure KeyInserted (before : Database) (row : ApiKeyRow) (after : Database) (id : Int) :
    Prop where
  admits : before.apiKeys.Admits row
  owner : row.ownerEmail ∈ before.accounts.users
  inserted : before.apiKeys.insert row = some (after.apiKeys, id)
  users : after.accounts.users = before.accounts.users
  robotTokens : after.robotTokens = before.robotTokens
  workers : after.workers = before.workers

variable {now : Int} {name ownerEmail keyHash : String}

theorem keyInserted_of_insertApiKey
    (inserted : db.insertApiKey now name ownerEmail keyHash keyPrefix = .ok (after, id)) :
    KeyInserted db ⟨name, keyHash, keyPrefix, ownerEmail, none, false, now⟩ after id := by
  unfold insertApiKey at inserted
  split at inserted
  · cases inserted
  · rename_i table newId isInserted
    split_ifs at inserted with known
    obtain ⟨rfl, rfl⟩ := Prod.mk.inj (Except.ok.inj inserted)
    exact ⟨(GeneratedTable.insert_eq_some isInserted).1, known, isInserted, rfl, rfl, rfl⟩

variable {row : ApiKeyRow}

theorem KeyInserted.get (inserted : KeyInserted db row after id) (other : Int) :
    after.apiKeys.get other =
      if other = db.apiKeys.nextId then some row else db.apiKeys.get other :=
  (GeneratedTable.insert_eq_some inserted.inserted).2.2.2 other

theorem KeyInserted.get_of_get {other : Int} {old : ApiKeyRow}
    (inserted : KeyInserted db row after id) (stored : db.apiKeys.get other = some old) :
    after.apiKeys.get other = some old := by
  have issued := GeneratedTable.le_of_get stored
  rw [inserted.get, if_neg (by rw [GeneratedTable.nextId]; omega), stored]

theorem KeyInserted.id_eq (inserted : KeyInserted db row after id) : id = db.apiKeys.nextId :=
  (GeneratedTable.insert_eq_some inserted.inserted).2.1

theorem exists_insertApiKey_iff :
    (∃ outcome, db.insertApiKey now name ownerEmail keyHash keyPrefix = .ok outcome) ↔
      db.apiKeys.Admits ⟨name, keyHash, keyPrefix, ownerEmail, none, false, now⟩ ∧
        ownerEmail ∈ db.accounts.users := by
  constructor
  · rintro ⟨⟨after, id⟩, inserted⟩
    have spec := keyInserted_of_insertApiKey inserted
    exact ⟨spec.admits, spec.owner⟩
  · rintro ⟨admits, known⟩
    obtain ⟨⟨table, id⟩, inserted⟩ :=
      Option.isSome_iff_exists.mp (GeneratedTable.insert_isSome.mpr admits)
    unfold insertApiKey
    split
    · rename_i refused
      rw [refused] at inserted
      cases inserted
    · exact ⟨_, if_pos known⟩

theorem evolves_insertApiKey
    (inserted : db.insertApiKey now name ownerEmail keyHash keyPrefix = .ok (after, id)) :
    db.Evolves after := by
  have spec := keyInserted_of_insertApiKey inserted
  exact
    { apiKeys := .insert (fun row => .refl row.info) spec.inserted
      robotTokens := by
        rw [spec.robotTokens]
        exact .refl (fun row => .refl row.info) db.robotTokens
      kept := fun id inside => (GeneratedTable.mem_insert spec.inserted).mpr (Or.inr inside) }

theorem rows_revokeApiKeys (db : Database) (check : Int → ApiKeyRow → Bool) :
    (db.revokeApiKeys check).1.apiKeys.rows = db.apiKeys.rows.mapEntries fun id row =>
      if check id row then { row with revoked := true } else row :=
  rfl

theorem evolves_revokeApiKeys (check : Int → ApiKeyRow → Bool) :
    db.Evolves (db.revokeApiKeys check).1 := by
  refine evolves_withApiKeys (fun _ inside => Dictionary.mem_mapEntries.mpr inside)
    (.update rfl (db.rows_revokeApiKeys check) fun id row => ?_)
  split_ifs
  · exact ⟨rfl, rfl, fun _ => rfl⟩
  · exact .refl row.info

variable {rows : Dictionary WorkerId WorkerRow}

theorem withWorkers_eq_ok (replaced : db.withWorkers rows = .ok after) :
    after.apiKeys = db.apiKeys ∧ after.robotTokens = db.robotTokens ∧
      after.accounts = db.accounts ∧ after.workers.rows = rows := by
  unfold withWorkers at replaced
  split_ifs at replaced
  obtain rfl := Except.ok.inj replaced
  exact ⟨rfl, rfl, rfl, rfl⟩

variable {email : String}

/-- The tables after statements about one robot: only its row and its tokens have changed. -/
structure Concerns (email : String) (before after : Database) : Prop where
  apiKeys : after.apiKeys = before.apiKeys
  workers : after.workers = before.workers
  robotTokens : GeneratedTable.Evolves (fun row later => row.info.Continues later.info)
    before.robotTokens after.robotTokens
  users : ∀ other, other ≠ email → after.accounts.getUser other = before.accounts.getUser other
  others : ∀ id row, after.robotTokens.get id = some row → row.robotEmail ≠ email →
    before.robotTokens.get id = some row

theorem Concerns.trans (first : Concerns email before middle)
    (second : Concerns email middle after) : Concerns email before after where
  apiKeys := second.apiKeys.trans first.apiKeys
  workers := second.workers.trans first.workers
  robotTokens := first.robotTokens.trans (fun _ _ _ => .trans) second.robotTokens
  users := fun other different => (second.users other different).trans (first.users other different)
  others := fun id row stored foreign =>
    first.others id row (second.others id row stored foreign) foreign

theorem Concerns.evolves (concerns : Concerns email before after) : before.Evolves after where
  apiKeys := by
    rw [concerns.apiKeys]
    exact .refl (fun row => .refl row.info) before.apiKeys
  robotTokens := concerns.robotTokens
  kept := by simp [concerns.apiKeys]

theorem concerns_of_users (sameKeys : after.apiKeys = before.apiKeys)
    (sameWorkers : after.workers = before.workers)
    (sameTokens : after.robotTokens = before.robotTokens)
    (users : ∀ other, other ≠ email →
      after.accounts.getUser other = before.accounts.getUser other) :
    Concerns email before after where
  apiKeys := sameKeys
  workers := sameWorkers
  robotTokens := (evolves_of_eq sameKeys sameTokens).robotTokens
  users := users
  others := fun _ _ stored _ => sameTokens ▸ stored

theorem concerns_insertRobotToken {tokenHash tokenPrefix : String} {expiresAt : Option Int}
    (inserted : db.insertRobotToken email tokenHash tokenPrefix expiresAt = .ok (after, id)) :
    Concerns email db after := by
  unfold insertRobotToken at inserted
  split at inserted
  · cases inserted
  · rename_i table newId isInserted
    split_ifs at inserted
    obtain ⟨rfl, rfl⟩ := Prod.mk.inj (Except.ok.inj inserted)
    refine ⟨rfl, rfl, .insert (fun row => .refl row.info) isInserted, fun _ _ => rfl, ?_⟩
    intro key row stored foreign
    have found := ((GeneratedTable.insert_eq_some isInserted).2.2.2 key).symm.trans stored
    split_ifs at found
    · obtain rfl := Option.some.inj found
      exact absurd rfl foreign
    · exact found

theorem rows_revokeAllActiveTokens (db : Database) (email : String) :
    (db.revokeAllActiveTokens email).1.robotTokens.rows =
      db.robotTokens.rows.mapEntries fun _ row =>
        if row.robotEmail = email then { row with revoked := true } else row :=
  rfl

theorem concerns_revokeAllActiveTokens (email : String) :
    Concerns email db (db.revokeAllActiveTokens email).1 := by
  refine ⟨rfl, rfl, .update rfl (db.rows_revokeAllActiveTokens email) fun id row => ?_,
    fun _ _ => rfl, fun id row stored foreign => ?_⟩
  · split_ifs
    · exact ⟨rfl, rfl, fun _ => rfl⟩
    · exact .refl row.info
  · obtain ⟨old, found, rfl⟩ := Dictionary.lookup_mapEntries.mp stored
    split_ifs at foreign ⊢ with own
    · exact absurd own foreign
    · exact found

theorem concerns_deleteRobotTokens (email : String) :
    Concerns email db (db.deleteRobotTokens email).1 :=
  ⟨rfl, rfl, .retain (fun row => .refl row.info) _, fun _ _ => rfl,
    fun _ _ stored _ => (GeneratedTable.get_retain.mp stored).1⟩

/-- The robots and their tokens are left alone. -/
structure SameRobots (before after : Database) : Prop where
  users : after.accounts.users = before.accounts.users
  robotTokens : after.robotTokens = before.robotTokens

variable {material : KeyMaterial}

/-- What a registration leaves: a key that was just handed out and a worker that is bound to it. -/
theorem registerWorker_eq_ok {id : WorkerId} {arch : Arch}
    (registered : db.registerWorker now email id name arch material = .ok after) :
    db.Evolves after ∧ db.SameRobots after ∧ ∃ issued keyId,
      KeyInserted db ⟨"worker:" ++ name, material.hash, material.keyPrefix, email, none, false, now⟩
        issued keyId ∧ after.apiKeys = issued.apiKeys ∧ id ∉ db.workers.rows ∧
      ∀ other, after.workers.rows.lookup other =
        if other = id then some ⟨name, arch, keyId, email⟩ else db.workers.rows.lookup other := by
  obtain ⟨⟨issued, keyId⟩, inserted, stored⟩ := bind_eq_ok.mp registered
  have spec := keyInserted_of_insertApiKey inserted
  unfold insertWorker at stored
  split_ifs at stored with taken known
  obtain ⟨sameKeys, sameTokens, sameAccounts, rows⟩ := withWorkers_eq_ok stored
  rw [spec.workers] at rows taken
  refine ⟨(evolves_insertApiKey inserted).trans (evolves_of_eq sameKeys sameTokens),
    ⟨sameAccounts ▸ spec.users, sameTokens.trans spec.robotTokens⟩, issued, keyId, spec, sameKeys,
    taken, fun other => ?_⟩
  rw [rows, Dictionary.lookup_insert_eq]

theorem evolves_deregisterWorker (id : WorkerId) (worker : WorkerRow) :
    db.Evolves (db.deregisterWorker id worker).1 :=
  (evolves_revokeApiKeys _).trans (evolves_of_eq rfl rfl)

variable {worker : WorkerRow} {revoked : List Int}

/-- What a replacement of the key of a worker leaves: the worker is bound to a key that was just
handed out, and the old key is revoked. -/
theorem regenerateToken_eq_ok {id : WorkerId}
    (replaced : db.regenerateToken now email id worker material = .ok (after, revoked)) :
    ∃ (issued bound : Database) (keyId : Int),
      KeyInserted db ⟨"worker:" ++ worker.name, material.hash, material.keyPrefix, email,
        none, false, now⟩ issued keyId ∧
      bound.apiKeys = issued.apiKeys ∧ db.Evolves bound ∧ db.SameRobots bound ∧
      (after = (bound.revokeApiKeyById worker.apiKeyId).1 ∧
        revoked = (bound.revokeApiKeyById worker.apiKeyId).2) ∧
      ∀ other, after.workers.rows.lookup other =
        if other = id then
          (db.workers.rows.lookup other).map fun row => { row with apiKeyId := keyId }
        else db.workers.rows.lookup other := by
  obtain ⟨⟨issued, keyId⟩, inserted, rest⟩ := bind_eq_ok.mp replaced
  obtain ⟨bound, rebound, finished⟩ := bind_eq_ok.mp rest
  obtain ⟨rfl, rfl⟩ : (bound.revokeApiKeyById worker.apiKeyId).1 = after ∧
      (bound.revokeApiKeyById worker.apiKeyId).2 = revoked := by
    rw [Except.ok.inj finished]
    exact ⟨rfl, rfl⟩
  have spec := keyInserted_of_insertApiKey inserted
  obtain ⟨sameKeys, sameTokens, sameAccounts, rows⟩ := withWorkers_eq_ok rebound
  refine ⟨issued, bound, keyId, spec, sameKeys,
    (evolves_insertApiKey inserted).trans (evolves_of_eq sameKeys sameTokens),
    ⟨sameAccounts ▸ spec.users, sameTokens.trans spec.robotTokens⟩, ⟨rfl, rfl⟩, fun other => ?_⟩
  rw [← spec.workers]
  exact (congrArg (AList.lookup other) rows).trans (Dictionary.lookup_modify ..)

theorem evolves_regenerateToken {id : WorkerId}
    (replaced : db.regenerateToken now email id worker material = .ok (after, revoked)) :
    db.Evolves after := by
  obtain ⟨_, bound, _, -, -, evolves, -, ⟨rfl, -⟩, -⟩ := regenerateToken_eq_ok replaced
  exact evolves.trans (evolves_revokeApiKeys _)

theorem evolves_tombstoneRobot (now : Int) (email : String) :
    db.Evolves (db.tombstoneRobot now email).1 :=
  (evolves_withAccounts _).trans (concerns_revokeAllActiveTokens email).evolves

theorem evolves_setDescription (now : Int) (email : String) (description : Option String) :
    db.Evolves (db.setDescription now email description).1 := by
  unfold setDescription
  split
  · exact .refl db
  · split_ifs
    · exact .refl db
    · exact evolves_of_eq rfl rfl

theorem evolves_deactivateUser (now : Int) (email : String) :
    db.Evolves (db.deactivateUser now email).1 := by
  unfold deactivateUser
  dsimp only
  split_ifs
  · exact .refl db
  · exact evolves_withAccounts _

variable {ε α : Type}

theorem commit_of_ok {attempt : Database → Except ε (Database × α)} {value : α}
    (succeeds : attempt db = .ok (after, value)) : db.commit attempt = (after, .ok value) := by
  rw [commit, succeeds]

theorem commit_of_error {attempt : Database → Except ε (Database × α)} {reason : ε}
    (fails : attempt db = .error reason) : db.commit attempt = (db, .error reason) := by
  rw [commit, fails]

theorem commit_eq_ok {attempt : Database → Except ε (Database × α)} {value : α}
    (succeeded : (db.commit attempt).2 = .ok value) : ∃ after, attempt db = .ok (after, value) := by
  cases attempted : attempt db with
  | error reason =>
    rw [commit_of_error attempted] at succeeded
    cases succeeded
  | ok outcome =>
    obtain ⟨after, other⟩ := outcome
    rw [commit_of_ok attempted] at succeeded
    obtain rfl := Except.ok.inj succeeded
    exact ⟨after, rfl⟩

theorem evolves_commit {attempt : Database → Except ε (Database × α)}
    (evolves : ∀ after value, attempt db = .ok (after, value) → db.Evolves after) :
    db.Evolves (db.commit attempt).1 := by
  cases attempted : attempt db with
  | error reason =>
    rw [commit_of_error attempted]
    exact .refl db
  | ok outcome =>
    obtain ⟨after, value⟩ := outcome
    rw [commit_of_ok attempted]
    exact evolves after value attempted

/-- These tokens were stored and satisfied a condition, and none of them is usable any more. -/
def Revokes (before after : Database) (condition : TokenInfo → Prop) (refs : List TokenRef) :
    Prop :=
  ∀ ref ∈ refs, (∃ info, before.token ref = some info ∧ condition info) ∧ after.isLive ref = false

variable {condition : TokenInfo → Prop}

theorem Revokes.extend {refs : List TokenRef}
    (revokes : Revokes before middle condition refs) (evolves : before.Evolves middle)
    (later : middle.Evolves after) : Revokes before after condition refs := by
  intro ref inside
  obtain ⟨⟨info, stored, holds⟩, dead⟩ := revokes ref inside
  refine ⟨⟨info, stored, holds⟩, Bool.eq_false_iff.mpr fun live => ?_⟩
  rw [later.isLive (evolves.issued (issued_of_token stored)) live] at dead
  cases dead

/-- The tokens that a transaction revoked, if it did not fail. -/
def revokedBy {ε α : Type} (refs : α → List TokenRef) : Except ε α → List TokenRef
  | .error _ => []
  | .ok value => refs value

theorem revokes_commit {attempt : Database → Except ε (Database × α)} {refs : α → List TokenRef}
    (revokes : ∀ after value, attempt db = .ok (after, value) →
      Revokes db after condition (refs value)) :
    Revokes db (db.commit attempt).1 condition (revokedBy refs (db.commit attempt).2) := by
  cases attempted : attempt db with
  | error reason =>
    rw [commit_of_error attempted]
    exact fun ref inside => by cases inside
  | ok outcome =>
    obtain ⟨after, value⟩ := outcome
    rw [commit_of_ok attempted]
    exact revokes after value attempted

variable {check : Int → ApiKeyRow → Bool}

theorem mem_revokeApiKeys :
    id ∈ (db.revokeApiKeys check).2 ↔
      ∃ row, db.apiKeys.get id = some row ∧ check id row = true ∧ row.revoked = false := by
  refine (GeneratedTable.mem_keys_filter fun id row => check id row && !row.revoked).trans ?_
  simp only [Bool.and_eq_true, Bool.not_eq_true']

theorem get_revokeApiKeys :
    (db.revokeApiKeys check).1.apiKeys.get id = some row ↔
      ∃ old, db.apiKeys.get id = some old ∧
        row = if check id old then { old with revoked := true } else old :=
  Dictionary.lookup_mapEntries

theorem revokes_revokeApiKeys (check : Int → ApiKeyRow → Bool) (condition : TokenInfo → Prop)
    (implies : ∀ id row, check id row = true → condition row.info) :
    Revokes db (db.revokeApiKeys check).1 condition (apiKeyRefs (db.revokeApiKeys check).2) := by
  intro ref inside
  obtain ⟨id, revoked, rfl⟩ := List.mem_map.mp inside
  obtain ⟨row, stored, checked, -⟩ := mem_revokeApiKeys.mp revoked
  refine ⟨⟨row.info, Option.map_eq_some_iff.mpr ⟨row, stored, rfl⟩, implies id row checked⟩, ?_⟩
  rw [Bool.eq_false_iff]
  intro live
  obtain ⟨info, found, notRevoked⟩ := isLive_iff.mp live
  obtain ⟨later, storedLater, rfl⟩ := Option.map_eq_some_iff.mp found
  obtain ⟨old, storedOld, rfl⟩ := get_revokeApiKeys.mp storedLater
  obtain rfl := Option.some.inj (stored.symm.trans storedOld)
  rw [if_pos checked] at notRevoked
  cases notRevoked

theorem eq_of_mem_revokeApiKeyById {keyId : Int} (inside : id ∈ (db.revokeApiKeyById keyId).2) :
    id = keyId := by
  obtain ⟨row, -, checked, -⟩ := mem_revokeApiKeys.mp inside
  exact of_decide_eq_true checked

theorem revokes_revokeApiKeyById (keyId : Int) :
    Revokes db (db.revokeApiKeyById keyId).1 (fun _ => True)
      (apiKeyRefs (db.revokeApiKeyById keyId).2) :=
  revokes_revokeApiKeys _ _ fun _ _ _ => trivial

theorem revokes_deregisterWorker (id : WorkerId) (worker : WorkerRow) :
    Revokes db (db.deregisterWorker id worker).1 (fun _ => True)
      (apiKeyRefs (db.deregisterWorker id worker).2) := by
  refine Revokes.extend (revokes_revokeApiKeyById worker.apiKeyId) (evolves_revokeApiKeys _) ?_
  exact evolves_of_eq rfl rfl

theorem revokes_regenerateToken {id : WorkerId} (issued : db.Issued ⟨.apiKey, worker.apiKeyId⟩)
    (replaced : db.regenerateToken now email id worker material = .ok (after, revoked)) :
    (∀ id ∈ revoked, id = worker.apiKeyId) ∧
      Revokes db after (fun _ => True) (apiKeyRefs revoked) := by
  obtain ⟨_, bound, _, -, -, evolves, -, ⟨rfl, rfl⟩, -⟩ := regenerateToken_eq_ok replaced
  refine ⟨fun _ => eq_of_mem_revokeApiKeyById, fun ref inside => ?_⟩
  obtain ⟨⟨info, stored, -⟩, dead⟩ := revokes_revokeApiKeyById _ ref inside
  obtain ⟨oldId, isRevoked, rfl⟩ := List.mem_map.mp inside
  obtain rfl := eq_of_mem_revokeApiKeyById isRevoked
  obtain ⟨old, storedOld, -⟩ := evolves.token issued stored
  exact ⟨⟨old, storedOld, trivial⟩, dead⟩

theorem mem_activeTokensOf :
    id ∈ db.activeTokensOf email ↔
      ∃ row, db.robotTokens.get id = some row ∧ row.robotEmail = email ∧ row.revoked = false := by
  refine (GeneratedTable.mem_keys_filter fun _ (row : RobotTokenRow) =>
    row.robotEmail = email && !row.revoked).trans ?_
  simp only [Bool.and_eq_true, decide_eq_true_eq, Bool.not_eq_true']

/-- The robot has no usable token. -/
def LockedOut (db : Database) (email : String) : Prop :=
  ∀ id row, db.robotTokens.get id = some row → row.robotEmail = email → row.revoked = true

theorem lockedOut_revokeAllActiveTokens (email : String) :
    (db.revokeAllActiveTokens email).1.LockedOut email := by
  intro id row stored owned
  obtain ⟨old, -, rfl⟩ := Dictionary.lookup_mapEntries.mp stored
  split_ifs at owned ⊢ with revoked
  · rfl
  · exact absurd owned revoked

theorem lockedOut_deleteRobotTokens (email : String) :
    (db.deleteRobotTokens email).1.LockedOut email := by
  intro id row stored owned
  have kept := (GeneratedTable.get_retain.mp stored).2
  simp [owned] at kept

/-- The tokens that a robot had are revoked once it has no usable token. -/
theorem revokes_of_lockedOut (evolves : db.Evolves after) (lockedOut : after.LockedOut email) :
    Revokes db after (·.ownerEmail = email) (robotTokenRefs (db.activeTokensOf email)) := by
  intro ref inside
  obtain ⟨id, active, rfl⟩ := List.mem_map.mp inside
  obtain ⟨row, stored, owned, -⟩ := mem_activeTokensOf.mp active
  have storedInfo : db.token ⟨.robotToken, id⟩ = some row.info :=
    Option.map_eq_some_iff.mpr ⟨row, stored, rfl⟩
  refine ⟨⟨row.info, storedInfo, owned⟩, ?_⟩
  rw [Bool.eq_false_iff]
  intro live
  obtain ⟨info, found, notRevoked⟩ := isLive_iff.mp live
  obtain ⟨old, foundOld, continues⟩ := evolves.token (issued_of_token storedInfo) found
  obtain ⟨later, storedLater, rfl⟩ := Option.map_eq_some_iff.mp found
  obtain rfl := Option.some.inj (storedInfo.symm.trans foundOld)
  have isOwned : later.robotEmail = email := continues.owner.symm.trans owned
  rw [RobotTokenRow.info, lockedOut id later storedLater isOwned] at notRevoked
  cases notRevoked

theorem revokes_revokeAllActiveTokens (email : String) :
    Revokes db (db.revokeAllActiveTokens email).1 (·.ownerEmail = email)
      (robotTokenRefs (db.revokeAllActiveTokens email).2) :=
  revokes_of_lockedOut (concerns_revokeAllActiveTokens email).evolves
    (lockedOut_revokeAllActiveTokens email)

theorem revokes_tombstoneRobot (now : Int) (email : String) :
    Revokes db (db.tombstoneRobot now email).1 (·.ownerEmail = email)
      (robotTokenRefs (db.tombstoneRobot now email).2) :=
  revokes_of_lockedOut (evolves_tombstoneRobot now email) (lockedOut_revokeAllActiveTokens email)

theorem rotateToken_eq_ok {renew : Bool} {token : NewToken}
    (rotated : db.rotateToken email renew token = .ok (after, revoked)) :
    (∃ row, db.accounts.getUser email = some row ∧ row.active = true) ∧ Concerns email db after ∧
      Revokes db after (·.ownerEmail = email) (robotTokenRefs revoked) := by
  unfold rotateToken at rotated
  split at rotated
  · cases rotated
  · rename_i row found
    split_ifs at rotated with human inactive
    obtain ⟨⟨issued, tokenId⟩, inserted, done⟩ := bind_eq_ok.mp rotated
    obtain ⟨rfl, rfl⟩ := Prod.mk.inj (Except.ok.inj done)
    have revoking : Concerns email db _ := concerns_revokeAllActiveTokens email
    have issuing := concerns_insertRobotToken (mapError_eq_ok.mp inserted)
    exact ⟨⟨row, found, by simpa using inactive⟩, revoking.trans issuing,
      (revokes_revokeAllActiveTokens email).extend revoking.evolves issuing.evolves⟩

variable {description : Option String} {roles : List RoleName} {token : NewToken}

theorem users_addUserRoles {accounts updated : Accounts}
    (assigned : Accounts.addUserRoles email roles accounts = some updated) :
    updated.users = accounts.users := by
  induction roles generalizing accounts with
  | nil =>
    obtain rfl := Option.some.inj assigned
    rfl
  | cons role roles ih =>
    obtain ⟨middle, first, rest⟩ := Option.bind_eq_some_iff.mp assigned
    exact (ih rest).trans (addUserRole_eq_some first).2.1

theorem concerns_createRobot
    (created : db.createRobot now email name description token roles = .ok after) :
    Concerns email db after := by
  obtain ⟨⟨issued, tokenId⟩, inserted, rest⟩ := bind_eq_ok.mp created
  dsimp only at rest
  split at rest
  · cases rest
  · rename_i accounts assigned
    obtain rfl := Except.ok.inj rest
    have issuing := concerns_insertRobotToken (mapError_eq_ok.mp inserted)
    have sameUsers := users_addUserRoles assigned
    have assigning : Concerns email issued (issued.withAccounts accounts) :=
      concerns_of_users rfl rfl rfl fun other _ => congrArg (AList.lookup other) sameUsers
    refine .trans (.trans ?_ issuing) assigning
    refine concerns_of_users rfl rfl rfl fun other different => ?_
    exact (Dictionary.lookup_insert_eq ..).trans (if_neg different)

theorem reviveRobot_eq_ok {deleted : List Int}
    (revived : db.reviveRobot now email name description token roles = .ok (after, deleted)) :
    Concerns email db after ∧
      Revokes db after (·.ownerEmail = email) (robotTokenRefs deleted) := by
  unfold reviveRobot at revived
  dsimp only at revived
  split at revived
  · cases revived
  · rename_i accounts assigned
    obtain ⟨⟨issued, tokenId⟩, inserted, finished⟩ := bind_eq_ok.mp revived
    obtain ⟨rfl, rfl⟩ := Prod.mk.inj (Except.ok.inj finished)
    have clearing : Concerns email db ((db.withAccounts
        (db.accounts.clearUserRoles email)).deleteRobotTokens email).1 := by
      refine .trans ?_ (concerns_deleteRobotTokens email)
      exact concerns_of_users rfl rfl rfl fun _ _ => rfl
    have issuing := concerns_insertRobotToken (mapError_eq_ok.mp inserted)
    have reviving : Concerns email ((db.withAccounts
        (db.accounts.clearUserRoles email)).deleteRobotTokens email).1 issued := by
      refine .trans ?_ issuing
      refine concerns_of_users rfl rfl rfl fun other different => ?_
      refine (congrArg (AList.lookup other) (users_addUserRoles assigned)).trans ?_
      exact (Dictionary.lookup_modify ..).trans (if_neg different)
    exact ⟨clearing.trans reviving,
      (revokes_of_lockedOut clearing.evolves (lockedOut_deleteRobotTokens email)).extend
        clearing.evolves reviving.evolves⟩

theorem createOrRevive_eq_ok {outcome : CreateRevivedOutcome × List Int}
    (finished : db.createOrRevive now email name description token roles = .ok (after, outcome)) :
    Concerns email db after ∧
      Revokes db after (·.ownerEmail = email) (robotTokenRefs outcome.2) ∧
      (outcome.1 = .created → outcome.2 = []) := by
  unfold createOrRevive at finished
  split at finished
  · obtain ⟨created, isCreated, done⟩ := bind_eq_ok.mp finished
    obtain ⟨rfl, rfl⟩ := Prod.mk.inj (Except.ok.inj done)
    exact ⟨concerns_createRobot isCreated, by simp [Revokes, robotTokenRefs], fun _ => rfl⟩
  · split_ifs at finished
    obtain ⟨⟨revived, deleted⟩, isRevived, done⟩ := bind_eq_ok.mp finished
    obtain ⟨rfl, rfl⟩ := Prod.mk.inj (Except.ok.inj done)
    obtain ⟨concerns, revokes⟩ := reviveRobot_eq_ok isRevived
    exact ⟨concerns, revokes, fun isCreated => by cases isCreated⟩

end Histories

end Database

end Cbs

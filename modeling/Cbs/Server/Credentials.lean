import Cbs.Library.GeneratedTable
import Cbs.Proto
import Cbs.Server.RoleRequests
import Cbs.Server.TokenCache

/-!
# The credential tables

The tables of API keys, robot tokens and registered workers, with the statements and transactions
that change them.  Revoked rows stay in their tables.
-/

namespace Cbs

/-- A row of the `api_keys` table. -/
structure ApiKeyRow where
  name : String
  keyHash : String
  /-- The first characters of the key, by which it is looked up. -/
  keyPrefix : String
  ownerEmail : String
  expiresAt : Option Int
  revoked : Bool
  createdAt : Int
  deriving DecidableEq

/-- The unique constraints on API keys: the hash, the prefix for one owner, the name for one
owner. -/
def ApiKeyRow.Clash (row other : ApiKeyRow) : Prop :=
  row.keyHash = other.keyHash ∨
    (row.ownerEmail = other.ownerEmail ∧ row.keyPrefix = other.keyPrefix) ∨
    (row.name = other.name ∧ row.ownerEmail = other.ownerEmail)

instance : DecidableRel ApiKeyRow.Clash :=
  fun _ _ => inferInstanceAs (Decidable (_ ∨ _ ∨ _))

instance : Std.Symm ApiKeyRow.Clash where
  symm _ _ := Or.imp Eq.symm (Or.imp (And.imp Eq.symm Eq.symm) (And.imp Eq.symm Eq.symm))

/-- A row of the `robot_tokens` table. -/
structure RobotTokenRow where
  robotEmail : String
  tokenHash : String
  /-- The first characters of the token, by which it is looked up. -/
  tokenPrefix : String
  expiresAt : Option Int
  revoked : Bool
  deriving DecidableEq

/-- The unique constraints on robot tokens: the hash, and the robot among the tokens that are not
revoked. -/
def RobotTokenRow.Clash (row other : RobotTokenRow) : Prop :=
  row.tokenHash = other.tokenHash ∨
    (row.robotEmail = other.robotEmail ∧ row.revoked = false ∧ other.revoked = false)

instance : DecidableRel RobotTokenRow.Clash :=
  fun _ _ => inferInstanceAs (Decidable (_ ∨ _ ∧ _ ∧ _))

instance : Std.Symm RobotTokenRow.Clash where
  symm _ _ := Or.imp Eq.symm fun both => ⟨both.1.symm, both.2.2, both.2.1⟩

/-- A row of the `workers` table. -/
structure WorkerRow where
  name : String
  arch : Arch
  apiKeyId : Int
  createdBy : String
  deriving DecidableEq

/-- The `workers` table. -/
structure WorkersTable where
  rows : Dictionary WorkerId WorkerRow
  names : ∀ first second row other, rows.lookup first = some row →
    rows.lookup second = some other → row.name = other.name → first = second
  keys : ∀ first second row other, rows.lookup first = some row →
    rows.lookup second = some other → row.apiKeyId = other.apiKeyId → first = second

/-- The columns of `users` that only the robot routes use. -/
structure RobotColumns where
  description : Option String
  createdAt : Int
  deriving DecidableEq

inductive ConstraintError where
  | unique
  | other
  deriving DecidableEq

def keysView (table : GeneratedTable ApiKeyRow ApiKeyRow.Clash) : List TokenRow :=
  table.rows.entries.map fun entry => ⟨entry.2.ownerEmail, entry.2.revoked⟩

def robotTokensView (table : GeneratedTable RobotTokenRow RobotTokenRow.Clash) : List TokenRow :=
  table.rows.entries.map fun entry => ⟨entry.2.robotEmail, entry.2.revoked⟩

/-- The account tables with the credential tables in full. -/
structure Database where
  accounts : Accounts
  robotColumns : Dictionary String RobotColumns
  apiKeys : GeneratedTable ApiKeyRow ApiKeyRow.Clash
  robotTokens : GeneratedTable RobotTokenRow RobotTokenRow.Clash
  workers : WorkersTable
  bound : ∀ id row, workers.rows.lookup id = some row → row.apiKeyId ∈ apiKeys.rows
  keysAgree : accounts.apiKeys = keysView apiKeys
  robotTokensAgree : accounts.robotTokens = robotTokensView robotTokens

namespace Database

def new (accounts : Accounts) : Database where
  accounts := { accounts with apiKeys := [], robotTokens := [] }
  robotColumns := ∅
  apiKeys := .empty
  robotTokens := .empty
  workers := { rows := ∅, names := by simp, keys := by simp }
  bound := by simp
  keysAgree := rfl
  robotTokensAgree := rfl

variable (db : Database)

/-- Replace the table of API keys by one that still has every row. -/
def withApiKeys (table : GeneratedTable ApiKeyRow ApiKeyRow.Clash)
    (covers : ∀ id ∈ db.apiKeys.rows, id ∈ table.rows) : Database :=
  { db with
    accounts := { db.accounts with apiKeys := keysView table }
    apiKeys := table
    bound := fun id row stored => covers _ (db.bound id row stored)
    keysAgree := rfl }

def withRobotTokens (table : GeneratedTable RobotTokenRow RobotTokenRow.Clash) : Database :=
  { db with
    accounts := { db.accounts with robotTokens := robotTokensView table }
    robotTokens := table
    robotTokensAgree := rfl }

/-- Replace the users, roles and session tokens. -/
def withAccounts (accounts : Accounts) : Database :=
  { db with
    accounts :=
      { accounts with apiKeys := db.accounts.apiKeys, robotTokens := db.accounts.robotTokens }
    keysAgree := db.keysAgree
    robotTokensAgree := db.robotTokensAgree }

/-- Insert an API key; the unique constraints are checked before the owner. -/
def insertApiKey (now : Int) (name ownerEmail keyHash keyPrefix : String) :
    Except ConstraintError (Database × Int) :=
  match inserted : db.apiKeys.insert ⟨name, keyHash, keyPrefix, ownerEmail, none, false, now⟩ with
  | none => .error .unique
  | some (table, id) =>
    if ownerEmail ∈ db.accounts.users then
      .ok (db.withApiKeys table fun _ inside =>
        (GeneratedTable.mem_insert inserted).mpr (Or.inr inside), id)
    else .error .other

/-- The keys that are not revoked and have a prefix, in the order in which they are found. -/
def findApiKeysByPrefix (rank : Int → Nat) (keyPrefix : String) :
    List (Sigma fun _ : Int => ApiKeyRow) :=
  db.apiKeys.select rank fun row => row.keyPrefix = keyPrefix && !row.revoked

/-- Revoke the keys that satisfy a condition, with those that were not revoked before. -/
def revokeApiKeys (check : Int → ApiKeyRow → Bool) : Database × List Int :=
  (db.withApiKeys
      (db.apiKeys.update
        (fun id row => if check id row then { row with revoked := true } else row) (by
          intro first second row other clash
          split_ifs at clash <;> exact clash))
      fun _ inside => Dictionary.mem_mapEntries.mpr inside,
    (db.apiKeys.rows.entries.filter fun entry =>
      check entry.1 entry.2 && !entry.2.revoked).map (·.1))

def revokeApiKeyByPrefix (ownerEmail keyPrefix : String) : Database × List Int :=
  db.revokeApiKeys fun _ row => row.ownerEmail = ownerEmail && row.keyPrefix = keyPrefix

def revokeAllApiKeysForUser (ownerEmail : String) : Database × List Int :=
  db.revokeApiKeys fun _ row => row.ownerEmail = ownerEmail

def revokeApiKeyById (id : Int) : Database × List Int :=
  db.revokeApiKeys fun other _ => other = id

def getKeyPrefixById (id : Int) : Option String :=
  (db.apiKeys.get id).map (·.keyPrefix)

def getWorkerById (id : WorkerId) : Option WorkerRow :=
  db.workers.rows.lookup id

/-- Replace the rows of the workers, if the constraints admit it. -/
def withWorkers (rows : Dictionary WorkerId WorkerRow) : Except ConstraintError Database :=
  if constraints :
      (∀ entry ∈ rows.entries, ∀ other ∈ rows.entries,
        entry.2.name = other.2.name ∨ entry.2.apiKeyId = other.2.apiKeyId → entry.1 = other.1) then
    if known : ∀ entry ∈ rows.entries, entry.2.apiKeyId ∈ db.apiKeys.rows then
      .ok
        { db with
          workers :=
            { rows := rows
              names := fun first second row other stored storedToo same =>
                constraints ⟨first, row⟩ (AList.mem_lookup_iff.mp stored) ⟨second, other⟩
                  (AList.mem_lookup_iff.mp storedToo) (Or.inl same)
              keys := fun first second row other stored storedToo same =>
                constraints ⟨first, row⟩ (AList.mem_lookup_iff.mp stored) ⟨second, other⟩
                  (AList.mem_lookup_iff.mp storedToo) (Or.inr same) }
          bound := fun id row stored => known ⟨id, row⟩ (AList.mem_lookup_iff.mp stored) }
    else .error .other
  else .error .unique

def insertWorker (id : WorkerId) (row : WorkerRow) : Except ConstraintError Database :=
  -- The code of a primary key is not that of a unique constraint.
  if id ∈ db.workers.rows then .error .other
  else if row.createdBy ∈ db.accounts.users then db.withWorkers (db.workers.rows.insert id row)
  else .error .other

def updateApiKeyId (id : WorkerId) (apiKeyId : Int) : Except ConstraintError Database :=
  db.withWorkers (db.workers.rows.modify id fun row => { row with apiKeyId := apiKeyId })

def deleteWorker (id : WorkerId) : Database :=
  { db with
    workers :=
      { rows := db.workers.rows.erase id
        names := by
          intro first second row other stored storedToo
          rw [Dictionary.lookup_erase_eq] at stored storedToo
          split_ifs at stored storedToo
          exact db.workers.names first second row other stored storedToo
        keys := by
          intro first second row other stored storedToo
          rw [Dictionary.lookup_erase_eq] at stored storedToo
          split_ifs at stored storedToo
          exact db.workers.keys first second row other stored storedToo }
    bound := by
      intro other row stored
      rw [Dictionary.lookup_erase_eq] at stored
      split_ifs at stored
      exact db.bound other row stored }

/-- Insert a robot token; the unique constraints are checked before the robot. -/
def insertRobotToken (robotEmail tokenHash tokenPrefix : String)
    (expiresAt : Option Int) : Except ConstraintError (Database × Int) :=
  match db.robotTokens.insert ⟨robotEmail, tokenHash, tokenPrefix, expiresAt, false⟩ with
  | none => .error .unique
  | some (table, id) =>
    if robotEmail ∈ db.accounts.users then .ok (db.withRobotTokens table, id)
    else .error .other

/-- The tokens that are not revoked and have a prefix, in the order in which they are found. -/
def findActiveTokenByPrefix (rank : Int → Nat) (tokenPrefix : String) :
    List (Sigma fun _ : Int => RobotTokenRow) :=
  db.robotTokens.select rank fun row => row.tokenPrefix = tokenPrefix && !row.revoked

def hasNonRevokedToken (email : String) : Bool :=
  db.robotTokens.any fun row => row.robotEmail = email && !row.revoked

def activeTokensOf (email : String) : List Int :=
  (db.robotTokens.rows.entries.filter fun entry =>
    entry.2.robotEmail = email && !entry.2.revoked).map (·.1)

/-- Revoke all tokens of a robot, with those that were not revoked before. -/
def revokeAllActiveTokens (email : String) : Database × List Int :=
  (db.withRobotTokens
      (db.robotTokens.update
        (fun _ row => if row.robotEmail = email then { row with revoked := true } else row) (by
          intro first second row other clash
          rcases clash with hash | ⟨email, live, liveToo⟩
          · left
            split_ifs at hash <;> exact hash
          · right
            split_ifs at email live liveToo
            exact ⟨email, live, liveToo⟩)),
    db.activeTokensOf email)

/-- Delete all tokens of a robot, with those that were not revoked before. -/
def deleteRobotTokens (email : String) : Database × List Int :=
  (db.withRobotTokens (db.robotTokens.retain fun row => row.robotEmail ≠ email),
    db.activeTokensOf email)

end Database

namespace Accounts

def insertUser (accounts : Accounts) (email : String) (row : UserRow) : Accounts :=
  { accounts with
    users := accounts.users.insert email row
    assigned_user := fun entry inside =>
      (AList.mem_insert _).mpr (Or.inr (accounts.assigned_user entry inside)) }

def updateUser (accounts : Accounts) (email : String) (change : UserRow → UserRow) : Accounts :=
  { accounts with
    users := accounts.users.modify email change
    assigned_user := fun entry inside =>
      Dictionary.mem_modify.mpr (accounts.assigned_user entry inside) }

def clearUserRoles (accounts : Accounts) (email : String) : Accounts :=
  { accounts with
    userRoles := accounts.userRoles.filter (·.1 ≠ email)
    assigned_user := fun entry inside =>
      accounts.assigned_user entry (Finset.mem_filter.mp inside).1
    assigned_role := fun entry inside =>
      accounts.assigned_role entry (Finset.mem_filter.mp inside).1 }

def addUserRoles (email : String) : List RoleName → Accounts → Option Accounts
  | [], accounts => some accounts
  | role :: roles, accounts => (accounts.addUserRole email role).bind (addUserRoles email roles)

end Accounts

inductive CreateRevivedOutcome where
  | created
  | revived
  deriving DecidableEq

inductive CreateRobotError where
  | alreadyActive
  | humanCollision
  | uniqueViolation
  | db
  deriving DecidableEq

/-- What the refusal of a statement means for the creation of a robot. -/
def CreateRobotError.ofConstraint : ConstraintError → CreateRobotError
  | .unique => uniqueViolation
  | .other => db

/-- What is stored about a token that is handed out: its prefix, its hash and its expiry. -/
structure NewToken where
  tokenPrefix : String
  tokenHash : String
  expiresAt : Option Int
  deriving DecidableEq

namespace Database

def createRobot (db : Database) (now : Int) (email name : String) (description : Option String)
    (token : NewToken) (roles : List RoleName) : Except CreateRobotError Database := do
  let created :=
    { db.withAccounts (db.accounts.insertUser email ⟨"robot:" ++ name, true, true, none, now⟩) with
      robotColumns := db.robotColumns.insert email ⟨description, now⟩ }
  let issued ← (created.insertRobotToken email token.tokenHash token.tokenPrefix
    token.expiresAt).mapError .ofConstraint
  match issued.1.accounts.addUserRoles email roles with
  | none => .error .db
  | some accounts => .ok (issued.1.withAccounts accounts)

/-- Revive a robot as a new identity: its roles and tokens are deleted and replaced.  The result
includes the tokens that were deleted although they were not revoked. -/
def reviveRobot (db : Database) (now : Int) (email name : String) (description : Option String)
    (token : NewToken) (roles : List RoleName) : Except CreateRobotError (Database × List Int) := do
  let cleared := db.withAccounts (db.accounts.clearUserRoles email)
  let deleted := cleared.deleteRobotTokens email
  let renamed :=
    { deleted.1.withAccounts (deleted.1.accounts.updateUser email fun row =>
        { row with
          active := true
          name := "robot:" ++ name
          defaultChannelId := none
          updatedAt := now }) with
      robotColumns := deleted.1.robotColumns.insert email ⟨description, now⟩ }
  match renamed.accounts.addUserRoles email roles with
  | none => .error .db
  | some accounts => do
    let issued ← ((renamed.withAccounts accounts).insertRobotToken email token.tokenHash
      token.tokenPrefix token.expiresAt).mapError .ofConstraint
    .ok (issued.1, deleted.2)

def createOrRevive (db : Database) (now : Int) (email name : String) (description : Option String)
    (token : NewToken) (roles : List RoleName) :
    Except CreateRobotError (Database × CreateRevivedOutcome × List Int) :=
  match db.accounts.getUser email with
  | none => do
    let created ← db.createRobot now email name description token roles
    .ok (created, .created, [])
  | some row =>
    if row.isRobot = false then .error .humanCollision
    else if row.active then .error .alreadyActive
    else do
      let revived ← db.reviveRobot now email name description token roles
      .ok (revived.1, .revived, revived.2)

def tombstoneRobot (db : Database) (now : Int) (email : String) : Database × List Int :=
  (db.withAccounts (db.accounts.setActive now email false)).revokeAllActiveTokens email

end Database

inductive RotateTokenError where
  | robotNotFound
  | robotTombstoned
  | nonRevokedTokenExists
  | uniqueViolation
  | db
  deriving DecidableEq

/-- What the refusal of a statement means for the rotation of a token. -/
def RotateTokenError.ofConstraint : ConstraintError → RotateTokenError
  | .unique => uniqueViolation
  | .other => db

namespace Database

/-- Issue a token for an active robot; a token that it has is only replaced on request.  The result
includes the tokens that were revoked. -/
def rotateToken (db : Database) (email : String) (renew : Bool) (token : NewToken) :
    Except RotateTokenError (Database × List Int) :=
  match db.accounts.getUser email with
  | none => .error .robotNotFound
  | some row =>
    if row.isRobot = false then .error .robotNotFound
    else if row.active = false then .error .robotTombstoned
    else if db.hasNonRevokedToken email && !renew then .error .nonRevokedTokenExists
    else do
      let revoked := db.revokeAllActiveTokens email
      let issued ← (revoked.1.insertRobotToken email token.tokenHash token.tokenPrefix
        token.expiresAt).mapError .ofConstraint
      .ok (issued.1, revoked.2)

/-- Set the description of a robot; the flag says whether there is one. -/
def setDescription (db : Database) (now : Int) (email : String) (description : Option String) :
    Database × Bool :=
  match db.accounts.getUser email with
  | none => (db, false)
  | some row =>
    if row.isRobot = false then (db, false)
    else
      ({ db.withAccounts (db.accounts.updateUser email
            fun row => { row with updatedAt := now }) with
          robotColumns := db.robotColumns.modify email fun columns =>
            { columns with description := description } },
        true)

end Database

end Cbs

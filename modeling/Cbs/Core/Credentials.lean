import Cbs.Core.Runner
import Cbs.Library.Text

/-!
# Files that hold credentials

The context managers for SSH keys and GPG keyrings create files that hold secrets and remove them
after a body that ends normally; the runner creates the merged secrets file.
-/

namespace Cbs

open Script

structure Vault where
  readSecret : String → Except Raised (List (String × String))

def secretsMgrError (msg : String) : Raised :=
  ⟨.secretsMgr, msg⟩

/-- Turn an exception into an error of the secrets manager. -/
def wrapException {α : Type} (msg : String) (check : Except Raised α) : Except Raised α :=
  check.mapError fun raised =>
    if raised.kind.isException then secretsMgrError (msg ++ raised.text) else raised

def readVault (vault : Option Vault) (key missing failed : String) :
    Except Raised (List (String × String)) :=
  match vault with
  | none => .error (secretsMgrError missing)
  | some vault =>
    (vault.readSecret key).mapError fun raised =>
      if raised.kind = .vault then secretsMgrError (failed ++ raised.text) else raised

def secretField (secret : List (String × String)) (name missing : String) : Except Raised String :=
  match secret.lookup name with
  | none => .error (secretsMgrError missing)
  | some value => .ok value

/-- A text or what Python prints for its absence. -/
def orNone (text : Option String) : String :=
  text.getD "None"

/-- Create a holder of secret material, do what prepares it, run the body, and remove the holder
after what closes it. -/
def withHolder {α : Type} (holder : Holder) (created prepared : Except Raised Unit)
    (body : HostScript α) (closed : Except Raised Unit) : HostScript α := do
  createHolder holder created
  ofExcept prepared
  let result ← body
  ofExcept closed
  removeHolder holder
  pure result

/-- The script leaves every holder it found, and no other if it ends normally. -/
structure Balanced {α : Type} (script : HostScript α) : Prop where
  grows : ∀ host, ∃ added, (script.run host).2.holders = added ++ host.holders
  closed : ∀ host value, (script.run host).1 = .ok value →
    (script.run host).2.holders = host.holders

/-- The script leaves the holders as it found them. -/
def Keeps {α : Type} (script : HostScript α) : Prop :=
  script.Fixes Host.holders

def Ends {α : Type} (script : HostScript α) (host : Host) : Prop :=
  ∃ value, (script.run host).1 = .ok value

def Host.holding (host : Host) (holder : Holder) : Host :=
  { host with holders := holder :: host.holders }

variable {α : Type} {holder : Holder} {created prepared closed : Except Raised Unit}
variable {body : HostScript α} {host : Host}

theorem Keeps.balanced (keeps : Keeps body) : Balanced body :=
  ⟨fun host => ⟨[], keeps host⟩, fun host _ _ => keeps host⟩

/-- Holders that were added around an existing one are too many. -/
theorem holders_ne_of_added {added : List Holder} {after : List Holder}
    (grown : after = added ++ (host.holding holder).holders) : after ≠ host.holders := by
  intro same
  have lengths := congrArg List.length (grown.symm.trans same)
  simp only [Host.holding, List.length_append, List.length_cons] at lengths
  omega

theorem withHolder_run :
    (withHolder holder (.ok ()) (.ok ()) body closed).run host =
      match body.run (host.holding holder), closed with
      | (.ok value, after), .ok () =>
        (.ok value, { after with holders := after.holders.erase holder })
      | (.ok _, after), .error raised => (.error raised, after)
      | (.error raised, after), _ => (.error raised, after) := by
  change (body >>= fun result => do ofExcept closed; removeHolder holder; pure result).run
    (host.holding holder) = _
  rw [run_bind]
  cases body.run (host.holding holder) with
  | mk result after =>
    cases result with
    | error raised => rfl
    | ok value => cases closed <;> rfl

/-- The holder was not created, or everything after that ended normally. -/
def HolderReleased (holder : Holder) (created prepared : Except Raised Unit) (body : HostScript α)
    (closed : Except Raised Unit) (host : Host) : Prop :=
  (∃ raised, created = .error raised) ∨
    prepared = .ok () ∧ Ends body (host.holding holder) ∧ closed = .ok ()

/-- A holder around a balanced body: either nothing is left, and the holder was released, or it
stops and leaves at least the holder. -/
theorem withHolder_cases (balanced : Balanced body) :
    (((withHolder holder created prepared body closed).run host).2.holders = host.holders ∧
        HolderReleased holder created prepared body closed host) ∨
      (∃ added, ((withHolder holder created prepared body closed).run host).2.holders =
          added ++ (host.holding holder).holders) ∧
        (∃ raised, ((withHolder holder created prepared body closed).run host).1 = .error raised) ∧
        ¬ HolderReleased holder created prepared body closed host := by
  have added := balanced.grows (host.holding holder)
  have none_left := balanced.closed (host.holding holder)
  cases created with
  | error raised => exact .inl ⟨rfl, .inl ⟨raised, rfl⟩⟩
  | ok _ =>
  cases prepared with
  | error raised => exact .inr ⟨⟨[], rfl⟩, ⟨raised, rfl⟩, by simp [HolderReleased]⟩
  | ok _ =>
  rw [withHolder_run]
  cases ended : body.run (host.holding holder) with
  | mk result after =>
  rw [ended] at added none_left
  cases result with
  | error raised =>
    exact .inr ⟨added, ⟨raised, rfl⟩, by simp [HolderReleased, Ends, ended]⟩
  | ok value =>
  cases closed with
  | error raised => exact .inr ⟨added, ⟨raised, rfl⟩, by simp [HolderReleased]⟩
  | ok _ =>
    refine .inl ⟨?_, .inr ⟨rfl, ⟨value, by rw [ended]⟩, rfl⟩⟩
    have left : after.holders = holder :: host.holders := none_left value rfl
    simp [left]

theorem withHolder_balanced (balanced : Balanced body) :
    Balanced (withHolder holder created prepared body closed) := by
  constructor
  · intro host
    rcases withHolder_cases balanced with left | ⟨⟨added, left⟩, -⟩
    · exact ⟨[], left.1⟩
    · exact ⟨added ++ [holder], by rw [left, List.append_assoc]; rfl⟩
  · intro host value ended
    rcases withHolder_cases balanced with left | ⟨-, ⟨raised, stopped⟩, -⟩
    · exact left.1
    · rw [stopped] at ended
      cases ended

/-- A holder around a balanced body is gone exactly when it was released. -/
theorem withHolder_holders_iff (balanced : Balanced body) :
    ((withHolder holder created prepared body closed).run host).2.holders = host.holders ↔
      HolderReleased holder created prepared body closed host := by
  rcases withHolder_cases balanced with ⟨left, released⟩ | ⟨⟨added, left⟩, -, kept⟩
  · exact ⟨fun _ => released, fun _ => left⟩
  · exact ⟨fun same => absurd same (holders_ne_of_added left), fun released => absurd released kept⟩

inductive GitSshSecret where
  | plain (sshKey username : String)
  | vault (key sshKey username : String)

inductive GitHttpsSecret where
  | plain (username password : String)
  | vault (key username password : String)

inductive GitSecret where
  | ssh (entry : GitSshSecret)
  | https (entry : GitHttpsSecret)
  | token (token username : String)

/-- The groups of the git URL pattern. -/
structure GitUrl where
  httpHost : Option String
  httpPort : Option String
  httpPath : Option String

structure GitUse where
  homeExists : Bool
  mkdirSsh : Except Raised Unit
  remoteName : String
  matchUrl : String → Option GitUrl
  /-- Exit code, output and error output of the key scan. -/
  keyscan : String → Except Raised (Int × String × String)
  appendKnownHosts : Except Raised Unit
  openKey : Except Raised Unit
  writeKey : Except Raised Unit
  chmodKey : Except Raised Unit
  appendConfig : Except Raised Unit
  findBestSecretCandidate : List String → String → Option String

def GitUse.hostKey (use : GitUse) (sshHost : String) : Except Raised String := do
  let (returncode, stdout, stderr) ←
    wrapException ("error running ssh-keyscan for git url '" ++ sshHost ++ "': ")
      (use.keyscan sshHost)
  if returncode ≠ 0 ∨ stdout = "" then
    throw (secretsMgrError ("error obtaining ssh host key for git url '" ++ sshHost ++ "': "
      ++ Text.strip stderr))
  pure stdout

def sshCredentials (url : String) (vault : Option Vault) :
    GitSshSecret → Except Raised (String × String)
  | .plain sshKey username => .ok (sshKey, username)
  | .vault key sshKey username => do
    let secret ← readVault vault key
      ("no vault configured for git vault ssh secret for git url '" ++ url ++ "'")
      ("error obtaining ssh key from vault for git url '" ++ url ++ "': ")
    let missing := "missing field in vault secret for git url '" ++ url ++ "'"
    let sshKey ← secretField secret sshKey missing
    let username ← secretField secret username missing
    pure (Text.rstrip sshKey, Text.rstrip username)

/-- What comes before the key file: the path of the repository, and the key and user. -/
def GitUse.sshLogin (use : GitUse) (url : String) (entry : GitSshSecret)
    (vault : Option Vault) : Except Raised (Option String × String × String) := do
  if !use.homeExists then
    throw (secretsMgrError
      ("cannot determine home directory for ssh key git secret for url '" ++ url ++ "'"))
  use.mkdirSsh
  match use.matchUrl url with
  | none => throw (secretsMgrError ("cannot parse git url '" ++ url ++ "' for ssh key git secret"))
  | some groups =>
    let _ ← use.hostKey (orNone groups.httpHost)
    use.appendKnownHosts
    let credentials ← sshCredentials url vault entry
    pure (groups.httpPath, credentials)

/-- Fill the key file and record the remote. -/
def GitUse.fillKey (use : GitUse) : Except Raised Unit := do
  use.writeKey
  use.chmodKey
  use.appendConfig

/-- Run a body with a URL that an SSH key gives access to. -/
def sshGitUrlFor (use : GitUse) (url : String) (entry : GitSshSecret) (vault : Option Vault)
    (body : String → HostScript α) : HostScript α := do
  let (targetRepo, _) ← ofExcept (use.sshLogin url entry vault)
  withHolder .sshKey use.openKey use.fillKey (body (use.remoteName ++ ":" ++ orNone targetRepo))
    (.ok ())

/-- A URL with a user and a password or token. -/
def secureUrl (groups : GitUrl) (username secret : String) : String :=
  "https://" ++ username ++ ":" ++ secret ++ "@" ++ orNone groups.httpHost
    ++ (match groups.httpPort with | some port => ":" ++ port | none => "")
    ++ "/" ++ orNone groups.httpPath

def GitUse.httpsGitUrlFor (use : GitUse) (url : String) (entry : GitHttpsSecret)
    (vault : Option Vault) : Except Raised String :=
  match use.matchUrl url with
  | none => .error (secretsMgrError ("cannot parse git url '" ++ url ++ "' for https git secret"))
  | some groups =>
    match entry with
    | .plain username password => .ok (secureUrl groups username password)
    | .vault key username password => do
      let secret ← readVault vault key
        ("no vault configured for git vault https secret for git url '" ++ url ++ "'")
        ("error obtaining https creds from vault for git url '" ++ url ++ "': ")
      let missing := "missing field in vault secret for git url '" ++ url ++ "'"
      let username ← secretField secret username missing
      let password ← secretField secret password missing
      pure (secureUrl groups (Text.rstrip username) (Text.rstrip password))

def GitUse.tokenGitUrlFor (use : GitUse) (url token username : String) : Except Raised String :=
  match use.matchUrl url with
  | none => .error (secretsMgrError ("cannot parse git url '" ++ url ++ "' for token git secret"))
  | some groups => .ok (secureUrl groups username token)

def GitUse.bestEntry (use : GitUse) (url : String) (secrets : List (String × GitSecret)) :
    Except Raised (Option GitSecret) := do
  if (use.matchUrl url).isNone then
    throw (secretsMgrError ("invalid git url '" ++ url ++ "'"))
  match use.findBestSecretCandidate (secrets.map Prod.fst) url with
  | none | some "" => pure none
  | some best =>
    match secrets.lookup best with
    | none => throw ⟨.other "KeyError", best⟩
    | some entry => pure (some entry)

/-- Run a body with a URL for git access. -/
def gitUrlFor (use : GitUse) (url : String) (secrets : List (String × GitSecret))
    (vault : Option Vault) (body : String → HostScript α) : HostScript α := do
  match ← ofExcept (use.bestEntry url secrets) with
  | none => body url
  | some (.ssh entry) => sshGitUrlFor use url entry vault body
  | some (.https entry) => ofExcept (use.httpsGitUrlFor url entry vault) >>= body
  | some (.token token username) => ofExcept (use.tokenGitUrlFor url token username) >>= body

/-- If an SSH key file was created, writing it, recording the remote and the body ended normally. -/
def GitUse.ReleasesKey (use : GitUse) (url : String) (secrets : List (String × GitSecret))
    (vault : Option Vault) (body : String → HostScript α) (host : Host) : Prop :=
  ∀ entry, use.bestEntry url secrets = .ok (some (.ssh entry)) →
    ∀ targetRepo credentials, use.sshLogin url entry vault = .ok (targetRepo, credentials) →
      HolderReleased .sshKey use.openKey use.fillKey
        (body (use.remoteName ++ ":" ++ orNone targetRepo)) (.ok ()) host

variable {use : GitUse} {url : String} {vault : Option Vault}

theorem sshGitUrlFor_holders_iff {entry : GitSshSecret}
    {body : String → HostScript α} (keeps : ∀ url, Keeps (body url)) :
    ((sshGitUrlFor use url entry vault body).run host).2.holders = host.holders ↔
      ∀ targetRepo credentials, use.sshLogin url entry vault = .ok (targetRepo, credentials) →
        HolderReleased .sshKey use.openKey use.fillKey
          (body (use.remoteName ++ ":" ++ orNone targetRepo)) (.ok ()) host := by
  unfold sshGitUrlFor
  rw [run_bind, run_ofExcept]
  cases login : use.sshLogin url entry vault with
  | error raised => simp
  | ok found =>
    obtain ⟨targetRepo, credentials⟩ := found
    refine (withHolder_holders_iff (keeps _).balanced).trans ⟨fun released => ?_, fun all => ?_⟩
    · rintro _ _ ⟨⟩
      exact released
    · exact all targetRepo credentials rfl

theorem gitUrlFor_holders_iff {secrets : List (String × GitSecret)}
    {body : String → HostScript α} (keeps : ∀ url, Keeps (body url)) :
    ((gitUrlFor use url secrets vault body).run host).2.holders = host.holders ↔
      use.ReleasesKey url secrets vault body host := by
  unfold gitUrlFor GitUse.ReleasesKey
  rw [run_bind, run_ofExcept]
  cases chosen : use.bestEntry url secrets with
  | error raised => simp
  | ok best =>
  cases best with
  | none => simpa using keeps url host
  | some secret =>
  cases secret with
  | https entry | token token username => simpa using fixes_ofExcept.bind keeps host
  | ssh entry =>
    refine (sshGitUrlFor_holders_iff keeps).trans ⟨fun released => ?_, fun all => ?_⟩
    · rintro _ ⟨⟩
      exact released
    · exact all entry rfl

inductive GpgSecret where
  | plain (privateKey : String) (passphrase : Option String) (email : String)
  | vaultSingle (key privateKey : String) (passphrase : Option String) (email : String)
  | vaultPrivateKey (key privateKey : String) (passphrase : Option String) (email : String)

inductive SigningSecret where
  | gpg (entry : GpgSecret)
  | gpgPublicKey (key publicKey email : String)
  | transit (key mount : String)

structure GpgUse where
  showEntry : GpgSecret → String
  mkstempKey : Except Raised Unit
  keyFile : String
  writeKey : Except Raised Unit
  overwriteKey : Except Raised Unit
  mkdtempHome : Except Raised Unit
  keyring : String
  chmodHome : Except Raised Unit
  importKey : Except Raised (Int × String)

def gpgVaultFields (vault : Option Vault) (shown key privateKey : String)
    (passphrase : Option String) (email : String) :
    Except Raised (String × Option String × String) := do
  let secret ← readVault vault key
    ("vault is required to obtain GPG private key from '" ++ shown ++ "'")
    "error obtaining GPG private key from vault: "
  let field name := secretField secret name
    ("error obtaining GPG private key credentials: '" ++ name ++ "'")
  let privateKey ← field privateKey
  let passphrase ← match passphrase with
    | none | some "" => pure none
    | some name => some <$> field name
  let email ← field email
  pure (Text.rstrip privateKey, (passphrase.filter (· ≠ "")).map Text.rstrip, Text.rstrip email)

/-- Private key, passphrase and e-mail address of a secret. -/
def GpgUse.getGpgPrivateKeyFrom (use : GpgUse) (vault : Option Vault) (entry : GpgSecret) :
    Except Raised (String × Option String × String) :=
  match entry with
  | .plain privateKey passphrase email => .ok (privateKey, passphrase, email)
  | .vaultSingle key privateKey passphrase email
  | .vaultPrivateKey key privateKey passphrase email =>
    gpgVaultFields vault (use.showEntry entry) key privateKey passphrase email

def getGpgPrivateKeyFile (use : GpgUse) (entry : GpgSecret) (vault : Option Vault)
    (body : String × Option String × String → HostScript α) : HostScript α := do
  let (_, passphrase, email) ← ofExcept (use.getGpgPrivateKeyFrom vault entry)
  withHolder .gpgKeyFile
    (wrapException "error writing gpg private key to file: " use.mkstempKey)
    (wrapException "error writing gpg private key to file: " use.writeKey)
    (body (use.keyFile, passphrase, email))
    (wrapException "error cleaning up gpg private key file: " use.overwriteKey)

/-- Restrict access to the home directory and import the key there. -/
def GpgUse.fillHome (use : GpgUse) : Except Raised Unit := do
  use.chmodHome
  let (returncode, stderr) ← wrapException "error importing gpg private key: " use.importKey
  if returncode ≠ 0 then
    throw (secretsMgrError ("error importing gpg private key from '" ++ use.keyFile ++ "': "
      ++ stderr))

/-- Run a body with the home directory that the private key is imported in. -/
def getGpgPrivateKeyring (use : GpgUse) (entry : GpgSecret) (vault : Option Vault)
    (body : String × Option String × String → HostScript α) : HostScript α :=
  getGpgPrivateKeyFile use entry vault fun (_, passphrase, email) =>
    withHolder .gpgHome use.mkdtempHome use.fillHome (body (use.keyring, passphrase, email))
      (.ok ())

def gpgEntry (id : String) (secrets : List (String × SigningSecret)) : Except Raised GpgSecret :=
  match secrets.lookup id with
  | none => .error (secretsMgrError ("signing secret with ID '" ++ id ++ "' not found"))
  | some (.gpg entry) => .ok entry
  | some _ =>
    .error (secretsMgrError ("signing secret with ID '" ++ id ++ "' is not a GPG private key"))

/-- Run a body with the keyring of the signing secret with a name. -/
def gpgPrivateKeyring (use : GpgUse) (id : String) (secrets : List (String × SigningSecret))
    (vault : Option Vault) (body : String × Option String × String → HostScript α) :
    HostScript α := do
  let entry ← ofExcept (gpgEntry id secrets)
  getGpgPrivateKeyring use entry vault body

/-- If a private key file was created, everything after that ended normally. -/
def GpgUse.ReleasesKeyring (use : GpgUse) (id : String) (secrets : List (String × SigningSecret))
    (vault : Option Vault) (body : String × Option String × String → HostScript α) (host : Host) :
    Prop :=
  ∀ entry, gpgEntry id secrets = .ok entry →
    ∀ key passphrase email, use.getGpgPrivateKeyFrom vault entry = .ok (key, passphrase, email) →
      (∃ raised, use.mkstempKey = .error raised) ∨
        use.writeKey = .ok () ∧ use.mkdtempHome = .ok () ∧ use.fillHome = .ok () ∧
          Ends (body (use.keyring, passphrase, email))
            ((host.holding .gpgKeyFile).holding .gpgHome) ∧
          use.overwriteKey = .ok ()

variable {msg : String} {check : Except Raised Unit}

theorem wrapException_eq_ok : wrapException msg check = .ok () ↔ check = .ok () := by
  cases check <;> simp [wrapException, Except.mapError]

theorem wrapException_eq_error :
    (∃ raised, wrapException msg check = .error raised) ↔ ∃ raised, check = .error raised := by
  cases check <;> simp [wrapException, Except.mapError]

theorem withHolder_ends_iff :
    Ends (withHolder holder created prepared body closed) host ↔
      created = .ok () ∧ prepared = .ok () ∧ Ends body (host.holding holder) ∧ closed = .ok () := by
  cases created with
  | error raised => simp [Ends, withHolder, createHolder, run_bind]
  | ok _ =>
  cases prepared with
  | error raised => simp [Ends, withHolder, createHolder, run_bind]
  | ok _ =>
  unfold Ends
  rw [withHolder_run]
  cases ended : body.run (host.holding holder) with
  | mk result after =>
    cases result with
    | error raised => simp
    | ok value => cases closed <;> simp

theorem gpgPrivateKeyring_holders_iff {use : GpgUse} {id : String}
    {secrets : List (String × SigningSecret)}
    {body : String × Option String × String → HostScript α}
    (keeps : ∀ keyring, Keeps (body keyring)) :
    ((gpgPrivateKeyring use id secrets vault body).run host).2.holders = host.holders ↔
      use.ReleasesKeyring id secrets vault body host := by
  unfold gpgPrivateKeyring GpgUse.ReleasesKeyring
  rw [run_bind, run_ofExcept]
  cases found : gpgEntry id secrets with
  | error raised => simp
  | ok entry =>
  simp only [Except.ok.injEq, forall_eq']
  unfold getGpgPrivateKeyring getGpgPrivateKeyFile
  rw [run_bind, run_ofExcept]
  cases fields : use.getGpgPrivateKeyFrom vault entry with
  | error raised => simp
  | ok contents =>
  obtain ⟨key, passphrase, email⟩ := contents
  refine (withHolder_holders_iff (withHolder_balanced (keeps _).balanced)).trans ?_
  rw [HolderReleased, withHolder_ends_iff, wrapException_eq_ok, wrapException_eq_ok,
    wrapException_eq_error]
  constructor
  · rintro (failed | ⟨written, ⟨made, filled, ended, -⟩, overwritten⟩) _ _ _ ⟨⟩
    · exact .inl failed
    · exact .inr ⟨written, made, filled, ended, overwritten⟩
  · intro all
    rcases all key passphrase email rfl with failed | ⟨written, made, filled, ended, overwritten⟩
    · exact .inl failed
    · exact .inr ⟨written, ⟨made, filled, ended, rfl⟩, overwritten⟩

/-- The secrets file was not created, or filling it or the configuration file failed with an error
for which the runner removes it. -/
def RunnerCall.RemovesSecrets (call : RunnerCall) : Prop :=
  (∃ raised, call.prepare = .error raised) ∨ (∃ raised, call.mkstempSecrets = .error raised) ∨
    (∃ raised, call.fillSecrets = .error raised ∧
      (raised.kind = .config ∨ raised.kind.isSecrets = true)) ∨
    call.fillSecrets = .ok () ∧ call.adjustConfig = .ok () ∧
      ∃ raised, call.storeConfig = .error raised ∧ raised.kind = .config

variable {container : ContainerRun}

theorem giveUp_keeps {raised : Raised} : Keeps (giveUp container raised) := by
  unfold giveUp
  split_ifs
  · exact fixes_ofExcept.bind fun _ => fixes_fail
  · exact fixes_fail

theorem writeReport_keeps : Keeps (writeReport container) :=
  fixes_modify fun _ => rfl

theorem podmanRun_keeps : Keeps (podmanRun container) :=
  fixes_ofExcept.bind fun _ => writeReport_keeps.bind fun _ =>
    fixes_ofExcept.rescue fun _ => giveUp_keeps

variable {call : RunnerCall}

theorem runLogged_keeps : Keeps (runLogged call) :=
  fixes_ofExcept.bind fun _ =>
    (podmanRun_keeps.rescue fun _ => fixes_ofExcept.bind fun _ => fixes_fail).bind fun _ =>
      fixes_ofExcept.bind fun _ => fixes_pure

theorem runContainer_keeps : Keeps (runContainer call) := by
  refine (runLogged_keeps.rescue fun raised => ?_).ensuring fixes_ofExcept
  split
  · exact fixes_fail
  · split_ifs
    · exact fixes_fail
    · exact fixes_fail

theorem collectReport_keeps : Keeps (collectReport call) := by
  have reads : Keeps (readReport call) := by
    refine fixes_read.bind fun found => ?_
    cases found with
    | none => exact fixes_pure
    | some raw => exact fixes_ofExcept.bind fun _ => fixes_ofExcept.bind fun _ => fixes_pure
  refine (reads.rescue fun raised => ?_).ensuring
    (fixes_ofExcept.bind fun _ => fixes_modify fun _ => rfl)
  split_ifs
  · exact fixes_pure
  · exact fixes_fail

theorem runAndCollect_keeps : Keeps (runAndCollect call) := by
  refine fixes_ofExcept.bind fun _ => runContainer_keeps.bind fun ended =>
    collectReport_keeps.bind fun report => ?_
  split_ifs
  · exact fixes_fail
  · exact fixes_pure

/-- What is there once the secrets file is: one holder more, unless it is removed. -/
theorem afterSecrets_holders_iff :
    ((do writeSecrets call; ofExcept call.adjustConfig; writeConfig call; runAndCollect call :
        HostScript _).run (host.holding .secretsFile)).2.holders = host.holders ↔
      (∃ raised, call.fillSecrets = .error raised ∧
        (raised.kind = .config ∨ raised.kind.isSecrets = true)) ∨
      call.fillSecrets = .ok () ∧ call.adjustConfig = .ok () ∧
        ∃ raised, call.storeConfig = .error raised ∧ raised.kind = .config := by
  have left : (host.holding .secretsFile).holders ≠ host.holders := by simp [Host.holding]
  have removed : (host.holding .secretsFile).holders.erase .secretsFile = host.holders := by
    simp [Host.holding]
  cases filled : call.fillSecrets with
  | error raised =>
    by_cases caught : raised.kind = .config ∨ raised.kind.isSecrets = true
    · simp [writeSecrets, run_bind, run_rescue, filled, caught, removeHolder, removed]
    · simp [writeSecrets, run_bind, run_rescue, filled, caught, left]
  | ok _ =>
  cases adjusted : call.adjustConfig with
  | error raised => simp [writeSecrets, run_bind, run_rescue, filled, left]
  | ok _ =>
  cases stored : call.storeConfig with
  | error raised =>
    by_cases caught : raised.kind = .config
    · simp [writeSecrets, writeConfig, run_bind, run_rescue, filled, stored, caught,
        removeHolder, removed]
    · simp [writeSecrets, writeConfig, run_bind, run_rescue, filled, stored, caught, left]
  | ok _ =>
    have kept : ((runAndCollect call).run (host.holding .secretsFile)).2.holders = _ :=
      runAndCollect_keeps _
    simp [writeSecrets, writeConfig, run_bind, run_rescue, filled, stored, kept, left]

theorem runner_holders_iff :
    ((runner call).run host).2.holders = host.holders ↔ call.RemovesSecrets := by
  unfold RunnerCall.RemovesSecrets
  cases prepared : call.prepare with
  | error raised => simp [runner, run_bind, prepared]
  | ok _ =>
  cases made : call.mkstempSecrets with
  | error raised => simp [runner, createHolder, run_bind, prepared, made]
  | ok _ =>
    simpa [runner, createHolder, run_bind, prepared, made, Host.holding] using
      @afterSecrets_holders_iff host call

/-- No credential outlives its use exactly when the runner failed in one of the ways for which it
removes the secrets file, or never created it; the SSH key was not created, or its body ended
normally; and the GPG key file was not created, or everything after it ended normally. -/
theorem credentials_removed_iff (host : Host) (vault : Option Vault) :
    (∀ call : RunnerCall,
      ((runner call).run host).2.holders = host.holders ↔ call.RemovesSecrets) ∧
    (∀ (α : Type) (use : GitUse) (url : String) (secrets : List (String × GitSecret))
      (body : String → HostScript α),
      (∀ url, Keeps (body url)) →
        (((gitUrlFor use url secrets vault body).run host).2.holders = host.holders ↔
          use.ReleasesKey url secrets vault body host)) ∧
    ∀ (α : Type) (use : GpgUse) (id : String) (secrets : List (String × SigningSecret))
      (body : String × Option String × String → HostScript α),
      (∀ keyring, Keeps (body keyring)) →
        (((gpgPrivateKeyring use id secrets vault body).run host).2.holders = host.holders ↔
          use.ReleasesKeyring id secrets vault body host) :=
  ⟨fun _ => runner_holders_iff, fun _ _ _ _ _ => gitUrlFor_holders_iff,
    fun _ _ _ _ _ => gpgPrivateKeyring_holders_iff⟩

/-- A host on which a git URL is obtained with an SSH key and every step succeeds. -/
def GitUse.smooth : GitUse where
  homeExists := true
  mkdirSsh := .ok ()
  remoteName := "abcdefghij"
  matchUrl _ := some ⟨some "git.example.org", none, some "ceph.git"⟩
  keyscan _ := .ok (0, "git.example.org ssh-rsa AAAA", "")
  appendKnownHosts := .ok ()
  openKey := .ok ()
  writeKey := .ok ()
  chmodKey := .ok ()
  appendConfig := .ok ()
  findBestSecretCandidate names _ := names.head?

/-- A host on which a GPG keyring is obtained and every step succeeds. -/
def GpgUse.smooth : GpgUse where
  showEntry _ := "gpg"
  mkstempKey := .ok ()
  keyFile := "/tmp/key"
  writeKey := .ok ()
  overwriteKey := .ok ()
  mkdtempHome := .ok ()
  keyring := "/tmp/home"
  chmodHome := .ok ()
  importKey := .ok (0, "")

def oneSshSecret : List (String × GitSecret) :=
  [("git.example.org", .ssh (.plain "PRIVATE KEY" "git"))]

def oneGpgSecret : List (String × SigningSecret) :=
  [("release", .gpg (.plain "PRIVATE KEY" none "release@example.org"))]

/-- A runner call whose configuration cannot be written leaves nothing, and neither do bodies that
end normally. -/
theorem credentials_removed :
    ((runner { RunnerCall.smooth .silent with storeConfig := .error ⟨.config, "disk full"⟩ }).run
        ⟨[], none⟩).2.holders = [] ∧
      ((gitUrlFor .smooth "ssh://git.example.org/ceph.git" oneSshSecret none pure).run
        ⟨[], none⟩).2.holders = [] ∧
      ((gpgPrivateKeyring .smooth "release" oneGpgSecret none pure).run ⟨[], none⟩).2.holders =
        [] := by
  obtain ⟨ofRunner, ofGit, ofGpg⟩ := credentials_removed_iff ⟨[], none⟩ none
  refine ⟨(ofRunner _).mpr ?_, (ofGit _ _ _ _ pure fun _ => ?_).mpr ?_,
    (ofGpg _ _ _ _ pure fun _ => ?_).mpr ?_⟩
  · exact .inr (.inr (.inr ⟨rfl, rfl, _, rfl, rfl⟩))
  · exact fixes_pure
  · exact fun _ _ _ _ _ => .inr ⟨rfl, ⟨_, rfl⟩, rfl⟩
  · exact fixes_pure
  · exact fun _ _ _ _ _ _ => .inr ⟨rfl, rfl, rfl, ⟨_, rfl⟩, rfl⟩

/-- A successful runner call leaves its secrets file; bodies that raise leave the SSH key, and the
GPG key file and home directory. -/
theorem credentials_left :
    (runner (.smooth .silent)).run ⟨[], none⟩ = (.ok none, ⟨[.secretsFile], none⟩) ∧
      ((gitUrlFor .smooth "ssh://git.example.org/ceph.git" oneSshSecret none
        (fun _ => fail ⟨.command, "error cloning"⟩ : String → HostScript Unit)).run
          ⟨[], none⟩).2.holders = [.sshKey] ∧
      ((gpgPrivateKeyring .smooth "release" oneGpgSecret none
        (fun _ => fail ⟨.signing, "error signing"⟩ : _ → HostScript Unit)).run
          ⟨[], none⟩).2.holders = [.gpgHome, .gpgKeyFile] :=
  ⟨rfl, rfl, rfl⟩

end Cbs

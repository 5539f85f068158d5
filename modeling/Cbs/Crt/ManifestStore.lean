import Cbs.Library.Dictionary

/-!
# The manifest store

A manifest is stored in a file that is named by its uuid, and a link in a second directory leads
from its name to that file.  The store looks for the name in the wrong directory, and compares a
resolved path with one that may not be.
-/

namespace Cbs

/-- A manifest; what the store does not look at is of an arbitrary type. -/
structure ReleaseManifest (δ : Type) where
  name : String
  releaseUuid : String
  details : δ
  deriving DecidableEq

/-- The name is one component of a path. -/
def IsComponent (name : String) : Prop :=
  name ≠ "" ∧ '/' ∉ name.toList

instance (name : String) : Decidable (IsComponent name) :=
  inferInstanceAs (Decidable (_ ∧ _))

/-- The manifests directory as the caller names it, and the same directory as an absolute path
without symbolic links. -/
structure StorePath where
  given : List String
  resolved : List String

inductive CrtError where
  | noSuchManifest (what : String)
  | nameInUse (name : String)
  | linkExists (uuid name : String)
  deriving DecidableEq

/-- The two directories: what the files named by uuids contain, and to which uuids the links go. -/
structure ManifestStore (δ : Type) where
  files : Dictionary String (ReleaseManifest δ)
  links : Dictionary String String

namespace ManifestStore

variable {δ : Type} (store : ManifestStore δ)

/-- `manifest_exists` for a uuid. -/
def uuidExists (uuid : String) : Bool :=
  (store.files.lookup uuid).isSome

/-- `manifest_exists` for a name in one component, which is looked up among the uuids. -/
def nameExists (name : String) : Bool :=
  (store.files.lookup name).isSome

/-- What a link leads to; a dangling link leads nowhere. -/
def follow (name : String) : Option (ReleaseManifest δ) :=
  (store.links.lookup name).bind store.files.lookup

/-- `load_manifest` -/
def load (uuid : String) : Except CrtError (ReleaseManifest δ) :=
  match store.files.lookup uuid with
  | none => .error (.noSuchManifest uuid)
  | some manifest => .ok manifest

/-- `load_manifest_by_name`; a name with slashes leads out of the directory of links, to whatever is
there, and so is the empty name left open. -/
def loadByName (name : String)
    (elsewhere : Except CrtError (ReleaseManifest δ)) : Except CrtError (ReleaseManifest δ) :=
  if IsComponent name then
    match store.follow name with
    | none => .error (.noSuchManifest name)
    | some manifest => .ok manifest
  else elsewhere

/-- Unlink the name of a manifest if its link leads somewhere, and the file. -/
def unlink (manifest : ReleaseManifest δ) : ManifestStore δ where
  files := store.files.erase manifest.releaseUuid
  links :=
    if (store.follow manifest.name).isSome then store.links.erase manifest.name else store.links

/-- `remove_manifest` -/
def remove (found : Except CrtError (ReleaseManifest δ)) : ManifestStore δ × Except CrtError Unit :=
  match found with
  | .error reason => (store, .error reason)
  | .ok manifest => (store.unlink manifest, .ok ())

def refuses (path : StorePath) (store : ManifestStore δ) (manifest : ReleaseManifest δ) : Bool :=
  match store.links.lookup manifest.name with
  | none => false
  | some uuid =>
    (store.files.lookup uuid).isSome &&
      path.resolved ++ [uuid ++ ".json"] ≠ path.given ++ [manifest.releaseUuid ++ ".json"]

/-- `store_manifest`: the file is written before a missing link is made, and making one fails where
a dangling link is.  What a name with slashes does is left open. -/
def put (path : StorePath) (store : ManifestStore δ) (manifest : ReleaseManifest δ)
    (elsewhere : ManifestStore δ × Except CrtError Unit) :
    ManifestStore δ × Except CrtError Unit :=
  if ¬ IsComponent manifest.name then elsewhere
  else if store.refuses path manifest then (store, .error (.nameInUse manifest.name))
  else
    let written := { store with files := store.files.insert manifest.releaseUuid manifest }
    if (written.follow manifest.name).isSome then (written, .ok ())
    else if manifest.name ∈ store.links then
      (written, .error (.linkExists manifest.releaseUuid manifest.name))
    else ({ written with links := store.links.insert manifest.name manifest.releaseUuid }, .ok ())

inductive Operation (δ : Type) where
  | store (manifest : ReleaseManifest δ) (elsewhere : ManifestStore δ × Except CrtError Unit)
  | removeUuid (uuid : String)
  | removeName (name : String) (elsewhere : Except CrtError (ReleaseManifest δ))

/-- The store, and the content that was stored last under every uuid and not removed since. -/
structure History (δ : Type) where
  store : ManifestStore δ
  content : String → Option (ReleaseManifest δ)

def History.empty : History δ := ⟨⟨∅, ∅⟩, fun _ => none⟩

/-- The content changes with every operation that succeeds. -/
def History.note (history : History δ) (result : ManifestStore δ × Except CrtError Unit)
    (content : String → Option (ReleaseManifest δ)) : History δ :=
  ⟨result.1, if result.2 = .ok () then content else history.content⟩

def History.exec (path : StorePath) (history : History δ) : Operation δ → History δ
  | .store manifest elsewhere =>
    history.note (history.store.put path manifest elsewhere)
      (Function.update history.content manifest.releaseUuid (some manifest))
  | .removeUuid uuid =>
    history.note (history.store.remove (history.store.load uuid))
      (Function.update history.content uuid none)
  | .removeName name elsewhere =>
    history.note (history.store.remove (history.store.loadByName name elsewhere))
      fun uuid => (history.content uuid).filter (·.name ≠ name)

def History.run (path : StorePath) (operations : List (Operation δ)) : History δ :=
  operations.foldl (exec path) empty

structure MapLaws (path : StorePath) (history : History δ) : Prop where
  load : ∀ uuid manifest, history.store.load uuid = .ok manifest ↔
    history.content uuid = some manifest
  loadByName : ∀ name, IsComponent name → ∀ elsewhere manifest,
    history.store.loadByName name elsewhere = .ok manifest ↔
      history.content manifest.releaseUuid = some manifest ∧ manifest.name = name
  uuidExists : ∀ uuid, history.store.uuidExists uuid = true ↔
    ∃ manifest, history.store.load uuid = .ok manifest
  nameExists : ∀ name, IsComponent name → ∀ elsewhere, history.store.nameExists name = true ↔
    ∃ manifest, history.store.loadByName name elsewhere = .ok manifest
  storedAgain : ∀ old, history.content old.releaseUuid = some old → ∀ manifest elsewhere,
    manifest.releaseUuid = old.releaseUuid → manifest.name = old.name →
      (history.store.put path manifest elsewhere).2 = .ok ()

/-- Manifests are stored through a resolved path and under the text of their own uuid, and a name by
which one is removed has no slashes. -/
def Safe (path : StorePath) : Operation δ → Prop
  | .store manifest _ =>
    path.given = path.resolved ∧ manifest.name = manifest.releaseUuid ∧ IsComponent manifest.name
  | .removeUuid _ => True
  | .removeName name _ => IsComponent name

/-- Files and links are those of the content, every manifest under its own uuid. -/
structure Mirrors (path : StorePath) (history : History δ) : Prop where
  files : ∀ uuid, history.store.files.lookup uuid = history.content uuid
  links : ∀ name, history.store.links.lookup name = (history.content name).map fun _ => name
  named : ∀ uuid manifest, history.content uuid = some manifest →
    manifest.releaseUuid = uuid ∧ manifest.name = uuid ∧ IsComponent uuid
  resolved : ∀ uuid manifest, history.content uuid = some manifest → path.given = path.resolved

variable {path : StorePath} {history : History δ} {manifest : ReleaseManifest δ}
  {uuid name : String} {elsewhere : Except CrtError (ReleaseManifest δ)}

theorem load_eq_ok {store : ManifestStore δ} :
    store.load uuid = .ok manifest ↔ store.files.lookup uuid = some manifest := by
  unfold load
  split <;> simp_all

variable (mirrors : Mirrors path history)
include mirrors

theorem Mirrors.follow (name : String) : history.store.follow name = history.content name := by
  rw [ManifestStore.follow, mirrors.links]
  cases found : history.content name with
  | none => rfl
  | some manifest => exact (mirrors.files name).trans found

theorem Mirrors.loadByName_eq_ok (component : IsComponent name) :
    history.store.loadByName name elsewhere = .ok manifest ↔
      history.content name = some manifest := by
  rw [loadByName, if_pos component, mirrors.follow]
  cases history.content name <;> simp

/-- A manifest may be stored under the text of its uuid at any time. -/
theorem Mirrors.put_eq (resolved : path.given = path.resolved)
    (component : IsComponent uuid) (details : δ)
    (elsewhere : ManifestStore δ × Except CrtError Unit) :
    history.store.put path ⟨uuid, uuid, details⟩ elsewhere =
      (⟨history.store.files.insert uuid ⟨uuid, uuid, details⟩,
        if (history.content uuid).isSome then history.store.links
        else history.store.links.insert uuid uuid⟩, .ok ()) := by
  have accepted : history.store.refuses path ⟨uuid, uuid, details⟩ = false := by
    rw [refuses, mirrors.links, resolved]
    cases history.content uuid <;> simp
  have linked := mirrors.links uuid
  rw [ManifestStore.put, if_neg (not_not.mpr component), accepted]
  cases found : history.content uuid with
  | some old =>
    rw [found] at linked
    simp [ManifestStore.follow, linked]
  | none =>
    rw [found] at linked
    have unlinked : uuid ∉ history.store.links := AList.lookup_eq_none.mp linked
    simp [ManifestStore.follow, linked, unlinked]

theorem Mirrors.put (resolved : path.given = path.resolved)
    (component : IsComponent uuid) (details : δ)
    (elsewhere : ManifestStore δ × Except CrtError Unit) :
    Mirrors path ⟨(history.store.put path ⟨uuid, uuid, details⟩ elsewhere).1,
      Function.update history.content uuid (some ⟨uuid, uuid, details⟩)⟩ := by
  rw [mirrors.put_eq resolved component]
  refine ⟨fun other => ?_, fun name => ?_, fun other stored found => ?_, fun _ _ _ => resolved⟩
  · dsimp only
    rw [Dictionary.lookup_insert_eq, Function.update_apply, mirrors.files]
  · dsimp only
    rw [Function.update_apply]
    split_ifs with present isNew isNew
    · rw [isNew, mirrors.links, ← Option.some_get present]
      rfl
    · exact mirrors.links name
    · rw [isNew, AList.lookup_insert]
      rfl
    · exact (AList.lookup_insert_ne isNew).trans (mirrors.links name)
  · dsimp only at found
    rw [Function.update_apply] at found
    split_ifs at found with isNew
    · cases found
      exact ⟨isNew.symm, isNew.symm, isNew ▸ component⟩
    · exact mirrors.named other stored found

/-- A manifest is removed with its link. -/
theorem Mirrors.unlink (found : history.content uuid = some manifest) :
    Mirrors path ⟨history.store.unlink manifest, Function.update history.content uuid none⟩ := by
  obtain ⟨isUuid, isName, -⟩ := mirrors.named uuid manifest found
  have leads : (history.store.follow manifest.name).isSome = true := by
    rw [mirrors.follow, isName, found]
    rfl
  refine ⟨fun other => ?_, fun name => ?_, fun other stored isStored => ?_,
    fun _ _ _ => mirrors.resolved uuid manifest found⟩
  · dsimp only
    rw [ManifestStore.unlink, isUuid, Dictionary.lookup_erase_eq, Function.update_apply,
      mirrors.files]
  · dsimp only
    rw [ManifestStore.unlink, if_pos leads, isName, Dictionary.lookup_erase_eq,
      Function.update_apply, mirrors.links]
    split_ifs <;> rfl
  · dsimp only at isStored
    rw [Function.update_apply] at isStored
    split_ifs at isStored
    exact mirrors.named other stored isStored

theorem Mirrors.exec {operation : Operation δ} (safe : Safe path operation) :
    Mirrors path (history.exec path operation) := by
  cases operation with
  | store manifest elsewhere =>
    obtain ⟨name, uuid, details⟩ := manifest
    obtain ⟨resolved, same, component⟩ := safe
    obtain rfl : name = uuid := same
    have stored := congrArg Prod.snd (mirrors.put_eq resolved component details elsewhere)
    rw [History.exec, History.note, if_pos stored]
    exact mirrors.put resolved component details elsewhere
  | removeUuid uuid =>
    rw [History.exec, ManifestStore.load, mirrors.files]
    cases found : history.content uuid with
    | none => exact mirrors
    | some manifest => exact mirrors.unlink found
  | removeName name elsewhere =>
    rw [History.exec, loadByName, if_pos (show IsComponent name from safe), mirrors.follow]
    cases found : history.content name with
    | none => exact mirrors
    | some manifest =>
      have erased : (fun uuid => (history.content uuid).filter (·.name ≠ name)) =
          Function.update history.content name none := by
        funext uuid
        rw [Function.update_apply]
        cases stored : history.content uuid with
        | none => simp
        | some other => simp [Option.filter, (mirrors.named uuid other stored).2.1]
      have after := mirrors.unlink found
      rw [← erased] at after
      exact after

theorem Mirrors.mapLaws : MapLaws path history where
  load uuid manifest := by rw [load_eq_ok, mirrors.files]
  loadByName name component elsewhere manifest := by
    rw [mirrors.loadByName_eq_ok component]
    constructor
    · intro found
      obtain ⟨isUuid, isName, -⟩ := mirrors.named name manifest found
      exact ⟨isUuid ▸ found, isName⟩
    · rintro ⟨found, isName⟩
      rwa [← isName, (mirrors.named _ _ found).2.1]
  uuidExists uuid := by simp only [ManifestStore.uuidExists, load_eq_ok, Option.isSome_iff_exists]
  nameExists name component elsewhere := by
    simp only [ManifestStore.nameExists, mirrors.loadByName_eq_ok component, mirrors.files,
      Option.isSome_iff_exists]
  storedAgain old found manifest elsewhere isUuid isName := by
    obtain ⟨-, isText, component⟩ := mirrors.named _ old found
    obtain ⟨name, uuid, details⟩ := manifest
    obtain rfl : uuid = old.releaseUuid := isUuid
    obtain rfl : name = old.releaseUuid := isName.trans isText
    have resolved := mirrors.resolved _ old found
    exact congrArg Prod.snd (mirrors.put_eq resolved component details elsewhere)

omit mirrors

theorem mirrors_run {operations : List (Operation δ)}
    (safe : ∀ operation ∈ operations, Safe path operation) :
    Mirrors path (History.run path operations) := by
  refine List.foldlRecOn operations (History.exec path) ?_ fun history mirrors operation given =>
    Mirrors.exec mirrors (safe operation given)
  exact ⟨fun _ => rfl, fun _ => rfl, nofun, nofun⟩

/-- A link to a stored manifest is accepted only for this manifest and through a resolved path. -/
theorem eq_of_accepted {store : ManifestStore δ}
    (linked : store.links.lookup manifest.name = some uuid)
    (stored : (store.files.lookup uuid).isSome = true)
    (accepted : store.refuses path manifest = false) :
    path.given = path.resolved ∧ uuid = manifest.releaseUuid := by
  simp only [refuses, linked, stored, Bool.true_and, decide_eq_false_iff_not, not_not] at accepted
  obtain ⟨directories, names⟩ := List.append_inj' accepted rfl
  exact ⟨directories.symm, (String.append_left_inj _).mp (List.cons.inj names).1⟩

theorem accepted_of_put {store : ManifestStore δ} (component : IsComponent manifest.name)
    {elsewhere : ManifestStore δ × Except CrtError Unit}
    (stored : (store.put path manifest elsewhere).2 = .ok ()) :
    store.refuses path manifest = false := by
  by_contra refused
  rw [Bool.not_eq_false] at refused
  rw [put, if_neg (not_not.mpr component), if_pos refused] at stored
  cases stored

/-- The laws fail as soon as a manifest is stored otherwise. -/
theorem Mirrors.safe_of_mapLaws (mirrors : Mirrors path history)
    (component : IsComponent manifest.name) (elsewhere : ManifestStore δ × Except CrtError Unit)
    (stored : (history.store.put path manifest elsewhere).2 = .ok ())
    (laws : MapLaws path (history.exec path (.store manifest elsewhere))) :
    Safe path (.store manifest elsewhere) := by
  have accepted := accepted_of_put component stored
  have linked := mirrors.links manifest.name
  cases found : history.content manifest.name with
  | some old =>
    rw [found] at linked
    have isFile : (history.store.files.lookup manifest.name).isSome = true := by
      rw [mirrors.files, found]
      rfl
    obtain ⟨resolved, same⟩ := eq_of_accepted linked isFile accepted
    exact ⟨resolved, same, component⟩
  | none =>
    rw [found] at linked
    have unlinked : manifest.name ∉ history.store.links := AList.lookup_eq_none.mp linked
    have result : history.exec path (.store manifest elsewhere) =
        ⟨⟨history.store.files.insert manifest.releaseUuid manifest,
          history.store.links.insert manifest.name manifest.releaseUuid⟩,
          Function.update history.content manifest.releaseUuid (some manifest)⟩ := by
      rw [History.exec, History.note, if_pos stored]
      simp [ManifestStore.put, component, accepted, ManifestStore.follow, linked, unlinked]
    rw [result] at laws
    -- The new link leads to the manifest, so a file has to be named by the name.
    have leads := (laws.loadByName manifest.name component (.error (.noSuchManifest ""))
      manifest).mpr ⟨Function.update_self .., rfl⟩
    have isFile := (laws.nameExists manifest.name component _).mpr ⟨manifest, leads⟩
    have same : manifest.name = manifest.releaseUuid := by
      by_contra differs
      rw [nameExists, AList.lookup_insert_ne differs, mirrors.files, found] at isFile
      cases isFile
    have again := laws.storedAgain manifest (Function.update_self ..) manifest elsewhere rfl rfl
    have resolved := (eq_of_accepted (AList.lookup_insert _)
      (by rw [AList.lookup_insert]; rfl) (accepted_of_put component again)).1
    exact ⟨resolved, same, component⟩

/-- After operations on manifests that are named by their uuids the store is the map of what was
stored last, and it stays one with a further manifest only if that is named so too. -/
theorem map_laws_of_safe (path : StorePath) (operations : List (Operation δ))
    (safe : ∀ operation ∈ operations, Safe path operation) :
    MapLaws path (History.run path operations) ∧
      ∀ manifest elsewhere, IsComponent manifest.name →
        ((History.run path operations).store.put path manifest elsewhere).2 = .ok () →
        (MapLaws path ((History.run path operations).exec path (.store manifest elsewhere)) ↔
          Safe path (.store manifest elsewhere)) := by
  have mirrors := mirrors_run safe
  refine ⟨mirrors.mapLaws, fun manifest elsewhere component stored => ?_⟩
  exact ⟨mirrors.safe_of_mapLaws component elsewhere stored,
    fun isSafe => (mirrors.exec isSafe).mapLaws⟩

instance (path : StorePath) : (operation : Operation δ) → Decidable (Safe path operation)
  | .store _ _ => inferInstanceAs (Decidable (_ ∧ _))
  | .removeUuid _ => isTrue trivial
  | .removeName _ _ => inferInstanceAs (Decidable (IsComponent _))

def storeAs (name uuid : String) (stages : List String) : Operation (List String) :=
  .store ⟨name, uuid, stages⟩ (⟨∅, ∅⟩, .ok ())

/-- A manifest is stored again with a second stage while another one comes and goes. -/
theorem stored_again_and_removed :
    let path : StorePath := ⟨["/", "patches"], ["/", "patches"]⟩
    let store := (History.run path [storeAs "4f1c" "4f1c" ["base"], storeAs "9be2" "9be2" [],
      storeAs "4f1c" "4f1c" ["base", "fixes"],
      .removeName "9be2" (.error (.noSuchManifest "9be2"))]).store
    store.load "4f1c" = .ok ⟨"4f1c", "4f1c", ["base", "fixes"]⟩ ∧
      store.nameExists "4f1c" = true ∧ store.uuidExists "9be2" = false := by
  intro path store
  have laws := (map_laws_of_safe path [storeAs "4f1c" "4f1c" ["base"], storeAs "9be2" "9be2" [],
    storeAs "4f1c" "4f1c" ["base", "fixes"],
    .removeName "9be2" (.error (.noSuchManifest "9be2"))] (by decide)).1
  exact ⟨(laws.load "4f1c" _).mpr (by decide), by decide, by decide⟩

/-- A stored manifest can be loaded by its name but does not exist under it, and it cannot be stored
again through a relative path. -/
theorem stored_name_missing :
    let path : StorePath := ⟨["patches", "ceph", "manifests"],
      ["/", "home", "patches", "ceph", "manifests"]⟩
    let reefManifest : ReleaseManifest (List String) := ⟨"ces-v18.2.7", "4f1c", []⟩
    let history := History.run path [storeAs "ces-v18.2.7" "4f1c" []]
    history.store.loadByName "ces-v18.2.7" (.error (.noSuchManifest "")) = .ok reefManifest ∧
      history.store.nameExists "ces-v18.2.7" = false ∧
      (history.store.put path reefManifest (history.store, .ok ())).2 =
        .error (.nameInUse "ces-v18.2.7") ∧
      ¬ MapLaws path history := by
  refine ⟨by decide, by decide, by decide, fun laws => ?_⟩
  have found := (laws.nameExists "ces-v18.2.7" (by decide) (.error (.noSuchManifest ""))).mpr
    ⟨⟨"ces-v18.2.7", "4f1c", []⟩, by decide⟩
  exact absurd found (by decide)

end ManifestStore

end Cbs

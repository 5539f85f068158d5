import Cbs.Library.Confinement
import Cbs.Worker.Unpack

/-!
# Unpacking stays below its root

The checks of links read their targets by text, from the place that the path of the entry names.  If
that path goes through a link, or a target climbs over one, the link can lead out of the root.
-/

namespace Cbs

open Checks Unix Script

def linkTarget (fs : FileSystem String) : Location String → Option (Unix.Path String)
  | .object _ _ inode =>
    match fs.objects[inode]? with
    | some (.symlink target) => some target
    | _ => none
  | _ => none

/-- A link at the location, if that is free, stays inside the root. -/
def LinkSteady (fs : FileSystem String) (root : List String) (target : Unix.Path String) :
    Location String → Prop
  | .missing place _ => Steady fs root place target
  | _ => True

instance (fs : FileSystem String) (root : List String) (target : Unix.Path String) :
    (location : Location String) → Decidable (LinkSteady fs root target location)
  | .missing place _ => inferInstanceAs (Decidable (Steady fs root place target))
  | .directory _ | .object _ _ _ => isTrue trivial

/-- The link that an action puts in place, once its parent has been made, stays inside the root. -/
def ActionSteady (fs : FileSystem String) (root dest : List String) : Action → Prop
  | .symlink target =>
    ∀ location ∈ (fs.locate [] false (.ofPlace dest)).toOption, LinkSteady fs root target location
  | .hardLink source =>
    ∀ origin ∈ (fs.locate [] false (.ofPlace source)).toOption, ∀ target ∈ linkTarget fs origin,
      ∀ location ∈ (fs.locate [] false (.ofPlace dest)).toOption,
        LinkSteady fs root target location
  | _ => True

instance (fs : FileSystem String) (root dest : List String) :
    (action : Action) → Decidable (ActionSteady fs root dest action)
  | .symlink _ => inferInstanceAs (Decidable (∀ location ∈ Except.toOption _, _))
  | .hardLink _ => inferInstanceAs (Decidable (∀ origin ∈ Except.toOption _, _))
  | .directory | .regular => isTrue trivial

/-- The link that an entry puts in place, if it is one and passes the checks, stays inside. -/
def EntrySteady (root : List String) (maxUncompressedBytes : Nat) (entry : Entry)
    (machine : Machine String) : Prop :=
  ∀ checked ∈ (checkEntry root maxUncompressedBytes entry).toOption,
    ActionSteady ((createParent checked.1).run machine).2.fs root checked.1 checked.2

instance (root : List String) (maxUncompressedBytes : Nat) (entry : Entry)
    (machine : Machine String) :
    Decidable (EntrySteady root maxUncompressedBytes entry machine) :=
  inferInstanceAs (Decidable (∀ checked ∈ Except.toOption _, _))

/-- Every link that is put in place stays inside. -/
def SteadyRun (env : UnpackEnv) (root : List String) (maxUncompressedBytes : Nat) :
    List (Except ReadError Entry) → Machine String → Prop
  | [], _ => True
  | item :: items, machine =>
    ∀ entry ∈ item.toOption, EntrySteady root maxUncompressedBytes entry machine ∧
      ∀ _done ∈ ((unpackOne env root maxUncompressedBytes entry).run machine).1.toOption,
        SteadyRun env root maxUncompressedBytes items
          ((unpackOne env root maxUncompressedBytes entry).run machine).2

instance decidableSteadyRun (env : UnpackEnv) (root : List String) (maxUncompressedBytes : Nat) :
    (items : List (Except ReadError Entry)) → (machine : Machine String) →
      Decidable (SteadyRun env root maxUncompressedBytes items machine)
  | [], _ => isTrue trivial
  | item :: items, machine =>
    have (entry : Entry) := decidableSteadyRun env root maxUncompressedBytes items
      ((unpackOne env root maxUncompressedBytes entry).run machine).2
    inferInstanceAs (Decidable (∀ entry ∈ item.toOption, _ ∧ ∀ _done ∈ Except.toOption _, _))

section Steps

variable {base : FileSystem String} {root dest : List String}

theorem suffix_of_logicalNormalizeWithin {rel : Unix.Path String}
    (normalized : logicalNormalizeWithin root rel = some dest) : root <:+ dest := by
  unfold logicalNormalizeWithin at normalized
  split_ifs at normalized
  simpa using (Option.filter_eq_some_iff.mp normalized).2

variable {entry : Entry} {source : List String} {action : Action}

theorem checkHardLink_eq_ok (checked : checkHardLink root entry = .ok action) :
    ∃ source, action = .hardLink source ∧ root <:+ source := by
  obtain ⟨text, -, rest⟩ := bind_eq_ok.mp checked
  obtain ⟨place, normalized, done⟩ := bind_eq_ok.mp rest
  exact ⟨place, (Except.ok.inj done).symm,
    suffix_of_logicalNormalizeWithin (orError_eq_ok.mp normalized)⟩

theorem checkSymlink_eq_ok (checked : checkSymlink root dest entry = .ok action) :
    ∃ target, action = .symlink target := by
  obtain ⟨text, -, rest⟩ := bind_eq_ok.mp checked
  obtain ⟨-, -, rest⟩ := bind_eq_ok.mp rest
  obtain ⟨cleaned, -, rest⟩ := bind_eq_ok.mp rest
  obtain ⟨-, -, done⟩ := bind_eq_ok.mp rest
  exact ⟨_, (Except.ok.inj done).symm⟩

theorem suffix_of_checkType
    (checked : checkType root dest entry = .ok (.hardLink source)) : root <:+ source := by
  unfold checkType at checked
  split at checked
  case h_5 =>
    obtain ⟨_, impossible⟩ := checkSymlink_eq_ok checked
    cases impossible
  case h_6 =>
    obtain ⟨_, same, inside⟩ := checkHardLink_eq_ok checked
    cases same
    exact inside
  all_goals cases checked

/-- Checked entries go below the root, and so do the sources of hard links. -/
theorem checkEntry_eq_ok {maxUncompressedBytes : Nat}
    (checked : checkEntry root maxUncompressedBytes entry = .ok (dest, action)) :
    root <:+ dest ∧ ∀ source, action = .hardLink source → root <:+ source := by
  obtain ⟨place, normalized, rest⟩ := bind_eq_ok.mp checked
  obtain ⟨-, -, rest⟩ := bind_eq_ok.mp rest
  obtain ⟨typed, isTyped, done⟩ := bind_eq_ok.mp rest
  obtain ⟨rfl, rfl⟩ := Prod.mk.inj (Except.ok.inj done)
  refine ⟨suffix_of_logicalNormalizeWithin (orError_eq_ok.mp normalized), ?_⟩
  rintro source rfl
  exact suffix_of_checkType isTyped

theorem related_parent (inside : root <:+ dest) {parent : List String}
    (isParent : parentPlace dest = some parent) : root <:+ parent ∨ parent <:+ root := by
  cases dest with
  | nil => cases isParent
  | cons name outer =>
    obtain rfl := Option.some.inj isParent
    rcases List.suffix_cons_iff.mp inside with rfl | inside
    · exact Or.inr (List.suffix_cons name outer)
    · exact Or.inl inside

theorem triple_createParent (inside : root <:+ dest) :
    Triple (SealedMachine base root) (createParent dest) (fun _ => SealedMachine base root)
      (SealedMachine base root) := by
  unfold createParent
  split
  · exact triple_pure fun machine holds => holds
  · rename_i parent isParent
    exact (triple_createDirAll [] (related_parent inside isParent)).mapError

theorem triple_verifyParentRealpathUnder (holds : FileSystem String → Prop)
    {stopped : Machine String → Prop}
    (stops : ∀ machine : Machine String, holds machine.fs → stopped machine) :
    Triple (fun machine => holds machine.fs) (verifyParentRealpathUnder root dest)
      (fun _ machine => holds machine.fs) stopped := by
  refine Triple.bind _ (triple_callQuery holds _ stops) fun parentReal => ?_
  split_ifs
  · exact triple_pure fun machine holds => holds
  · exact triple_fail stops

variable {machine : Machine String}

/-- Once its parent has been made, nothing is done before an entry is put in place. -/
theorem triple_prepareParent (inside : root <:+ dest) (isSealed : SealedMachine base root machine) :
    Triple (· = machine) (prepareParent root dest)
      (fun _ final => final.fs = ((createParent dest).run machine).2.fs ∧
        Sealed base final.fs root) (SealedMachine base root) := by
  refine Triple.bind _ ((triple_createParent inside).remember isSealed) fun _ => ?_
  refine (triple_verifyParentRealpathUnder (fun fs =>
    fs = ((createParent dest).run machine).2.fs ∧ Sealed base fs root)
    fun _ holds => holds.2).mapError.mono ?_ fun _ _ holds => holds
  rintro final ⟨ended, holds⟩
  exact ⟨by rw [ended], holds⟩

theorem triple_copyChunks {inode : Nat} (own : base.objects.length ≤ inode)
    (chunks : List (List UInt8)) :
    Triple (SealedMachine base root) (copyChunks inode chunks) (fun _ => SealedMachine base root)
      (SealedMachine base root) := by
  induction chunks with
  | nil => exact triple_pure fun machine holds => holds
  | cons chunk chunks ih =>
    refine Triple.bind (fun _ => SealedMachine base root) ?_ fun _ => ih
    refine triple_call (Sealed base · root) (fun _ fs => Sealed base fs root) ?_
      fun machine holds => holds
    rintro fs final value isSealed ⟨⟩
    exact isSealed.modifyFile own _

theorem triple_writeFile (env : UnpackEnv) (entry : Entry) (inside : root <:+ dest) :
    Triple (SealedMachine base root) (writeFile env dest entry) (fun _ => SealedMachine base root)
      (SealedMachine base root) := by
  refine Triple.bind (fun inode machine => Sealed base machine.fs root ∧
    base.objects.length ≤ inode) ?_ fun inode => ?_
  · refine triple_call (Sealed base · root)
      (fun inode fs => Sealed base fs root ∧ base.objects.length ≤ inode) ?_
      fun machine holds => holds
    exact fun fs final inode isSealed opened => isSealed.openCreate inside opened
  · refine triple_of_fact fun own => ?_
    refine Triple.bind _ (triple_copyChunks own entry.chunks) fun _ => ?_
    refine Triple.bind (fun _ => SealedMachine base root)
      (triple_ofExcept (fun _ _ machine holds => holds) fun machine holds => holds) fun _ => ?_
    refine Triple.bind (fun _ => SealedMachine base root)
      (triple_ofExcept (fun _ _ machine holds => holds) fun machine holds => holds) fun mode => ?_
    refine triple_call (Sealed base · root) (fun _ fs => Sealed base fs root) ?_
      fun machine holds => holds
    rintro fs final value isSealed ⟨⟩
    exact isSealed.modifyFile own _

theorem steady_of_toOption {fs : FileSystem String} {target : Unix.Path String}
    (steady : ∀ location ∈ (fs.locate [] false (.ofPlace dest)).toOption,
      LinkSteady fs root target location) {place : List String} {name : String}
    (found : fs.locate [] false (.ofPlace dest) = .ok (.missing place name)) :
    Steady fs root place target := by
  apply steady (.missing place name)
  rw [found]
  rfl

/-- An entry that passes the checks is put in place below the root, and so are the directories that
it lies in. -/
theorem triple_place (env : UnpackEnv) (entry : Entry) (inside : root <:+ dest)
    (sourceInside : ∀ source, action = .hardLink source → root <:+ source)
    (isSealed : SealedMachine base root machine)
    (steady : ActionSteady ((createParent dest).run machine).2.fs root dest action) :
    Triple (· = machine) (place env root dest entry action) (fun _ => SealedMachine base root)
      (SealedMachine base root) := by
  have prepared := triple_prepareParent inside isSealed
  cases action with
  | directory =>
    refine Triple.bind _ prepared fun _ => ?_
    have related : root <:+ dest ∨ dest <:+ root := Or.inl inside
    exact (triple_createDirAll [] related).mapError.mono (fun _ holds => holds.2)
      fun _ _ holds => holds
  | regular =>
    refine Triple.bind _ prepared fun _ => ?_
    exact (triple_writeFile env entry inside).mono (fun _ holds => holds.2) fun _ _ holds => holds
  | symlink target =>
    refine Triple.bind _ prepared fun _ => ?_
    refine triple_call (fun fs => fs = ((createParent dest).run machine).2.fs ∧ Sealed base fs root)
      (fun _ fs => Sealed base fs root) ?_ fun _ holds => holds.2
    rintro fs final value ⟨rfl, sealedNow⟩ done
    obtain ⟨after, linked, same⟩ := map_eq_ok.mp done
    obtain ⟨rfl, -⟩ := Prod.mk.inj same
    exact sealedNow.symlink inside (fun place name => steady_of_toOption steady) linked
  | hardLink source =>
    refine Triple.bind _ prepared fun _ => ?_
    refine triple_call (fun fs => fs = ((createParent dest).run machine).2.fs ∧ Sealed base fs root)
      (fun _ fs => Sealed base fs root) ?_ fun _ holds => holds.2
    rintro fs final value ⟨rfl, sealedNow⟩ done
    obtain ⟨after, linked, same⟩ := map_eq_ok.mp done
    obtain ⟨rfl, -⟩ := Prod.mk.inj same
    refine sealedNow.hardLink (sourceInside source rfl) inside ?_ linked
    intro origin known inode target directory name isSource isLink
    apply steady_of_toOption
    apply steady (.object origin known inode)
    · rw [isSource]
      rfl
    · simp [linkTarget, isLink]

theorem triple_unpackOne (env : UnpackEnv) (maxUncompressedBytes : Nat) (entry : Entry)
    (isSealed : SealedMachine base root machine)
    (steady : EntrySteady root maxUncompressedBytes entry machine) :
    Triple (· = machine) (unpackOne env root maxUncompressedBytes entry)
      (fun _ => SealedMachine base root) (SealedMachine base root) := by
  refine Triple.bind (fun checked final => final = machine ∧
    checkEntry root maxUncompressedBytes entry = .ok checked) ?_ fun checked => ?_
  · refine triple_ofExcept (fun checked isChecked final same => ⟨same, isChecked⟩) ?_
    rintro final rfl
    exact isSealed
  · refine triple_of_fact fun isChecked => ?_
    obtain ⟨inside, sourceInside⟩ := checkEntry_eq_ok isChecked
    apply triple_place env entry inside sourceInside isSealed
    apply steady checked
    rw [isChecked]
    rfl

/-- Nothing outside the root is touched while entries are unpacked. -/
theorem triple_unpackEntries (env : UnpackEnv) (maxUncompressedBytes : Nat)
    (items : List (Except ReadError Entry)) (isSealed : SealedMachine base root machine)
    (steady : SteadyRun env root maxUncompressedBytes items machine) :
    Triple (· = machine) (unpackEntries env root maxUncompressedBytes items)
      (fun _ => SealedMachine base root) (SealedMachine base root) := by
  induction items generalizing machine with
  | nil =>
    apply triple_pure
    rintro final rfl
    exact isSealed
  | cons item items ih =>
    cases item with
    | error reason =>
      refine Triple.bind (fun _ _ => False) ?_ fun _ final absurdity => absurdity.elim
      apply triple_fail
      rintro final rfl
      exact isSealed
    | ok entry =>
      obtain ⟨first, rest⟩ := steady entry rfl
      refine Triple.bind (fun found final => final = machine ∧ found = entry) ?_ fun found => ?_
      · exact triple_pure fun final same => ⟨same, rfl⟩
      · refine triple_of_fact fun isEntry => ?_
        subst isEntry
        refine Triple.bind _ ((triple_unpackOne env maxUncompressedBytes found isSealed
          first).remember rfl) fun _ => ?_
        refine triple_of_state fun final ended => ?_
        rw [ended.1] at rest
        exact ih ended.2 (rest () rfl)

end Steps

section UnpackDir

variable {env : UnpackEnv} {fs : FileSystem String} {root : List String} {tempDir sha256 : String}

theorem triple_openUnpackDir
    (isRoot : fs.locate env.cwd true (parsePath (unpackDir tempDir sha256)) =
      .ok (.directory root)) :
    Triple (fun machine => machine.fs = fs) (openUnpackDir env tempDir sha256)
      (fun place machine => machine.fs = fs ∧ place = root) (fun machine => machine.fs = fs) := by
  refine Triple.bind _ (triple_createDirAll_of_isDirectory isRoot).mapError fun _ => ?_
  refine triple_call (· = fs) (fun place final => final = fs ∧ place = root) ?_
    fun machine holds => holds
  rintro _ final place rfl done
  obtain ⟨real, isReal, same⟩ := map_eq_ok.mp done
  obtain ⟨rfl, rfl⟩ := Prod.mk.inj same
  obtain ⟨location, found, isPlace⟩ := bind_eq_ok.mp isReal
  obtain rfl := Except.ok.inj (isRoot.symm.trans found)
  exact ⟨rfl, (Except.ok.inj isPlace).symm⟩

end UnpackDir

structure EmptyDirectory (fs : FileSystem String) (root : List String) : Prop where
  isDirectory : fs.lookup root = some .directory
  empty : ∀ place, root <:+ place → place ≠ root → fs.lookup place = none

/-- If every link that is put in place stays inside the root, from where it really lies, then
nothing outside is touched, whether the archive is unpacked or refused. -/
theorem unpacking_stays_inside (env : UnpackEnv) (tarballBytes : List UInt8)
    (expectedSha256 tempDir : String) (maxUncompressedBytes : Nat) (machine : Machine String)
    (root : List String) (isEmpty : EmptyDirectory machine.fs root)
    (isRoot : machine.fs.locate env.cwd true
      (parsePath (unpackDir tempDir (env.sha256 tarballBytes))) = .ok (.directory root))
    (steady : env.sha256 tarballBytes = expectedSha256 →
      ∀ items ∈ (env.entries tarballBytes maxUncompressedBytes).toOption,
        SteadyRun env root maxUncompressedBytes items
          ((openUnpackDir env tempDir (env.sha256 tarballBytes)).run machine).2) :
    Untouched machine.fs
      ((validateAndUnpack env tarballBytes expectedSha256 tempDir maxUncompressedBytes).run
        machine).2.fs root := by
  have isSealed : Sealed machine.fs machine.fs root :=
    sealed_of_empty isEmpty.isDirectory isEmpty.empty
  suffices kept : Triple (· = machine)
      (validateAndUnpack env tarballBytes expectedSha256 tempDir maxUncompressedBytes)
      (fun _ => SealedMachine machine.fs root) (SealedMachine machine.fs root) from
    (kept.final rfl).toUntouched
  unfold validateAndUnpack
  refine Triple.bind (fun _ final => final = machine ∧ env.sha256 tarballBytes = expectedSha256)
    ?_ fun _ => triple_of_fact fun matching => ?_
  · refine triple_ofExcept (fun _ checked final same => ⟨same, require_eq_ok.mp checked⟩) ?_
    rintro final rfl
    exact isSealed
  · have kept : ∀ final : Machine String, final.fs = machine.fs →
        SealedMachine machine.fs root final := by
      intro final same
      rw [SealedMachine, same]
      exact isSealed
    refine Triple.bind _ (((triple_openUnpackDir isRoot).remember rfl).mono_stopped kept)
      fun place => triple_of_state fun final reached => ?_
    obtain ⟨ran, sameFs, rfl⟩ := reached
    have isSealedNow := kept final sameFs
    replace steady := steady matching
    rw [ran] at steady
    refine Triple.bind (fun items last => last = final ∧
      env.entries tarballBytes maxUncompressedBytes = .ok items) ?_ fun items => ?_
    · refine triple_ofExcept ?_ ?_
      · intro items read last same
        exact ⟨same, mapError_eq_ok.mp read⟩
      · rintro last rfl
        exact isSealedNow
    · refine triple_of_fact fun read => ?_
      have steadyItems := steady items (by rw [read]; rfl)
      refine Triple.bind _
        (triple_unpackEntries env maxUncompressedBytes items isSealedNow steadyItems) fun _ => ?_
      exact triple_pure fun last holds => holds

def hostNodes : Dictionary (List String) Node :=
  (((∅ : Dictionary (List String) Node).insert ["victim"] (.object 0)).insert ["t"]
    .directory).insert ["component-0123456789ab", "t"] .directory

theorem mem_hostNodes {place : List String} :
    place ∈ hostNodes ↔
      place = ["component-0123456789ab", "t"] ∨ place = ["t"] ∨ place = ["victim"] := by
  rw [hostNodes, AList.mem_insert, AList.mem_insert, AList.mem_insert,
    iff_false_intro (AList.notMem_empty place), or_false]

/-- A host with an empty directory for an archive and a file outside of it. -/
def hostDisk : FileSystem String where
  nodes := hostNodes
  objects := [.file 0o600 [7, 7]]
  parents := by
    intro name place inside
    rcases mem_hostNodes.mp inside with same | same | same
    all_goals
      obtain ⟨-, rfl⟩ := List.cons.inj same
      decide
  valid := Dictionary.forall_entries_iff.mp (by decide)

/-- A SHA-256 digest. -/
def hostDigest : String :=
  "0123456789abcdef0123456789abcdef0123456789abcdef0123456789abcdef"

/-- A worker on the host that reads the given entries from every archive. -/
def hostEnv (entries : List Entry) : UnpackEnv where
  cwd := []
  createMode := 0o644
  sha256 := fun _ => hostDigest
  entries := fun _ _ => .ok (entries.map .ok)

theorem emptyDirectory_hostDisk : EmptyDirectory hostDisk ["component-0123456789ab", "t"] where
  isDirectory := by decide
  empty := by
    intro place below other
    have outside : place ∉ hostNodes := by
      intro inside
      rcases mem_hostNodes.mp inside with rfl | rfl | rfl
      · exact other rfl
      · revert below
        decide
      · revert below
        decide
    unfold FileSystem.lookup nodeAt
    rw [if_neg]
    · exact AList.lookup_eq_none.mpr outside
    · rintro rfl
      revert below
      decide

/-- A component with a directory, a file, a link to it from another directory and a second name. -/
def toolEntries : List Entry :=
  [⟨.directory, "lib/", 0, none, [], none, .ok 0o755⟩,
    ⟨.regular, "lib/tool", 3, none, [[1, 2], [3]], none, .ok 0o755⟩,
    ⟨.symlink, "bin/tool", 0, some "../lib/tool", [], none, .ok 0o777⟩,
    ⟨.link, "lib/again", 0, some "lib/tool", [], none, .ok 0o755⟩]

/-- The entries of an ordinary component are unpacked, and nothing outside is touched. -/
theorem tool_unpacked_inside :
    ((validateAndUnpack (hostEnv toolEntries) [0] hostDigest "/t" 100).run
        ⟨hostDisk, []⟩).1 = .ok "/t/component-0123456789ab" ∧
      Untouched hostDisk
        ((validateAndUnpack (hostEnv toolEntries) [0] hostDigest "/t" 100).run
          ⟨hostDisk, []⟩).2.fs ["component-0123456789ab", "t"] :=
  ⟨by decide +kernel,
    unpacking_stays_inside (hostEnv toolEntries) [0] hostDigest "/t" 100 ⟨hostDisk, []⟩
      ["component-0123456789ab", "t"] emptyDirectory_hostDisk (by decide +kernel)
      fun _ => by decide +kernel⟩

/-- A link to the parent of its directory, a link that is put through it into the root with a target
that its own path would keep inside, and a file over the second link. -/
def escapeEntries : List Entry :=
  [⟨.symlink, "p/l", 0, some "..", [], none, .ok 0o777⟩,
    ⟨.symlink, "p/l/f", 0, some "../../victim", [], none, .ok 0o777⟩,
    ⟨.regular, "f", 1, none, [[1]], none, .ok 0o755⟩]

/-- The archive is accepted, and a file outside of the root gets new content and a new mode. -/
theorem escape_overwrites_victim :
    EmptyDirectory hostDisk ["component-0123456789ab", "t"] ∧
      hostDisk.lookup ["victim"] = some (.object 0) ∧
      ((validateAndUnpack (hostEnv escapeEntries) [0] hostDigest "/t" 100).run
        ⟨hostDisk, []⟩).1 = .ok "/t/component-0123456789ab" ∧
      hostDisk.objects[0]? = some (.file 0o600 [7, 7]) ∧
      ((validateAndUnpack (hostEnv escapeEntries) [0] hostDigest "/t" 100).run
        ⟨hostDisk, []⟩).2.fs.objects[0]? = some (.file 0o755 [1]) :=
  ⟨emptyDirectory_hostDisk, by decide +kernel, by decide +kernel, by decide +kernel,
    by decide +kernel⟩

end Cbs

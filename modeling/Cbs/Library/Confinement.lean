import Cbs.Library.Checks
import Cbs.Library.FileSystem

/-!
# Calls that stay in a directory

A symbolic link does not lead out of a directory if its target climbs over directories only and not
above that one.  While all links below it are like that, every path from there stays inside.
-/

namespace Unix

variable {ν : Type} [DecidableEq ν]

/-- Up to its last `parent`, the path leads from a place over directories and not above the root. -/
def Climbs (fs : FileSystem ν) (root : List ν) : List ν → List (Component ν) → Prop
  | _, [] => True
  | place, component :: rest =>
    .parent ∉ component :: rest ∨
      match component with
      | .current => Climbs fs root place rest
      | .parent => place ≠ root ∧ Climbs fs root place.tail rest
      | .name name =>
        fs.lookup (name :: place) = some .directory ∧ Climbs fs root (name :: place) rest

/-- The link stays inside the root when it lies at a place. -/
def Steady (fs : FileSystem ν) (root place : List ν) (target : Path ν) : Prop :=
  target.absolute = false ∧ Climbs fs root place target.components

instance decidableClimbs (fs : FileSystem ν) (root : List ν) :
    (place : List ν) → (components : List (Component ν)) →
      Decidable (Climbs fs root place components)
  | _, [] => isTrue trivial
  | place, .current :: rest =>
    have := decidableClimbs fs root place rest
    inferInstanceAs (Decidable (_ ∨ Climbs fs root place rest))
  | place, .parent :: rest =>
    have := decidableClimbs fs root place.tail rest
    inferInstanceAs (Decidable (_ ∨ place ≠ root ∧ Climbs fs root place.tail rest))
  | place, .name name :: rest =>
    have := decidableClimbs fs root (name :: place) rest
    inferInstanceAs (Decidable
      (_ ∨ fs.lookup (name :: place) = some .directory ∧ Climbs fs root (name :: place) rest))

instance (fs : FileSystem ν) (root place : List ν) (target : Path ν) :
    Decidable (Steady fs root place target) :=
  inferInstanceAs (Decidable (_ ∧ _))

section Climbs

variable {fs later : FileSystem ν} {root place : List ν} {components : List (Component ν)}

theorem climbs_of_notMem (flat : .parent ∉ components) : Climbs fs root place components := by
  cases components with
  | nil => trivial
  | cons component rest => exact Or.inl flat

theorem Climbs.append {rest : List (Component ν)} (climbs : Climbs fs root place components)
    (flat : .parent ∉ rest) : Climbs fs root place (components ++ rest) := by
  induction components generalizing place with
  | nil => exact climbs_of_notMem flat
  | cons component components ih =>
    rcases climbs with level | climbs
    · have apart : Component.parent ∉ (component :: components) ++ rest := by
        rw [List.mem_append]
        rintro (inside | inside)
        · exact level inside
        · exact flat inside
      exact Or.inl apart
    · right
      cases component with
      | current => exact ih climbs
      | parent | name name => exact ⟨climbs.1, ih climbs.2⟩

theorem Climbs.mono (climbs : Climbs fs root place components)
    (stays : ∀ other, fs.lookup other = some .directory → later.lookup other = some .directory) :
    Climbs later root place components := by
  induction components generalizing place with
  | nil => trivial
  | cons component components ih =>
    rcases climbs with level | climbs
    · exact Or.inl level
    · right
      cases component with
      | current => exact ih climbs
      | parent => exact ⟨climbs.1, ih climbs.2⟩
      | name name => exact ⟨stays _ climbs.1, ih climbs.2⟩

theorem Steady.mono {target : Path ν} (steady : Steady fs root place target)
    (stays : ∀ other, fs.lookup other = some .directory → later.lookup other = some .directory) :
    Steady later root place target :=
  ⟨steady.1, steady.2.mono stays⟩

end Climbs

/-- All links below the root stay inside. -/
def FileSystem.Tame (fs : FileSystem ν) (root : List ν) : Prop :=
  ∀ name place inode target, root <:+ place → fs.lookup (name :: place) = some (.object inode) →
    fs.objects[inode]? = some (.symlink target) → Steady fs root place target

def Location.Within (fs : FileSystem ν) (root : List ν) : Location ν → Prop
  | directory place => root <:+ place
  | object place name inode =>
    root <:+ place ∧ fs.lookup (name :: place) = some (.object inode)
  | missing place _ => root <:+ place

omit [DecidableEq ν] in
theorem suffix_tail {root place : List ν} (inside : root <:+ place) (below : place ≠ root) :
    root <:+ place.tail := by
  cases place with
  | nil => exact absurd (List.suffix_nil.mp inside).symm below
  | cons name outer =>
    rcases List.suffix_cons_iff.mp inside with same | inner
    · exact absurd same.symm below
    · exact inner

section Locate

variable {fs : FileSystem ν} {root : List ν} {follow : Bool}

theorem locateWith_within (tame : fs.Tame root)
    {jump : List ν → List (Component ν) → Except Errno (Location ν)}
    (jumps : ∀ place components location, root <:+ place → Climbs fs root place components →
      jump place components = .ok location → location.Within fs root)
    {place : List ν} {components : List (Component ν)} {location : Location ν}
    (inside : root <:+ place) (climbs : Climbs fs root place components)
    (found : fs.locateWith follow jump place components = .ok location) :
    location.Within fs root := by
  induction components generalizing place with
  | nil =>
    obtain rfl := Except.ok.inj found
    exact inside
  | cons component rest ih =>
    cases component with
    | current =>
      apply ih inside _ found
      rcases climbs with level | climbs
      · exact climbs_of_notMem fun parent => level (List.mem_cons_of_mem _ parent)
      · exact climbs
    | parent =>
      rcases climbs with level | ⟨below, climbs⟩
      · exact absurd List.mem_cons_self level
      · exact ih (suffix_tail inside below) climbs found
    | name name =>
      have rises : .parent ∉ rest ∨ fs.lookup (name :: place) = some .directory ∧
          Climbs fs root (name :: place) rest := by
        rcases climbs with level | climbs
        · exact Or.inl fun parent => level (List.mem_cons_of_mem _ parent)
        · exact Or.inr climbs
      unfold FileSystem.locateWith at found
      split at found
      · split_ifs at found
        obtain rfl := Except.ok.inj found
        exact inside
      · apply ih (inside.trans (List.suffix_cons name place)) _ found
        rcases rises with flat | ⟨-, climbs⟩
        · exact climbs_of_notMem flat
        · exact climbs
      · rename_i inode isObject
        -- A link is not climbed over, so that nothing but names follows it.
        have flat : .parent ∉ rest := by
          rcases rises with flat | ⟨isDirectory, -⟩
          · exact flat
          · rw [isObject] at isDirectory
            cases isDirectory
        split at found
        · rename_i target isLink
          split_ifs at found with last absolute
          · obtain rfl := Except.ok.inj found
            exact ⟨inside, isObject⟩
          · obtain ⟨relative, -⟩ := tame name place inode target inside isObject isLink
            rw [absolute] at relative
            cases relative
          · obtain ⟨-, climbs⟩ := tame name place inode target inside isObject isLink
            exact jumps place _ location inside (climbs.append flat) found
        · split_ifs at found
          obtain rfl := Except.ok.inj found
          exact ⟨inside, isObject⟩

variable {links : Nat}

/-- A path that does not climb out of the root leads to a location below it. -/
theorem locateFrom_within (tame : fs.Tame root) {place : List ν}
    {components : List (Component ν)} {location : Location ν} (inside : root <:+ place)
    (climbs : Climbs fs root place components)
    (found : fs.locateFrom follow links place components = .ok location) :
    location.Within fs root := by
  induction links generalizing place components location with
  | zero =>
    apply locateWith_within tame _ inside climbs found
    intro place components location _ _ stopped
    cases stopped
  | succ links ih => exact locateWith_within tame (fun _ _ _ => ih) inside climbs found

theorem lookup_tail {name : ν} {place : List ν} {node : Node}
    (found : fs.lookup (name :: place) = some node) : fs.lookup place = some .directory := by
  apply fs.parents name place
  apply AList.lookup_isSome.mp
  have stored : fs.nodes.lookup (name :: place) = some node := by
    simpa [FileSystem.lookup, nodeAt] using found
  rw [stored]
  rfl

variable {place : List ν} (isDirectory : fs.lookup place = some .directory)
include isDirectory

theorem lookup_suffix {outer : List ν} (above : outer <:+ place) :
    fs.lookup outer = some .directory := by
  induction place with
  | nil =>
    rw [List.suffix_nil.mp above]
    exact isDirectory
  | cons name place ih =>
    rcases List.suffix_cons_iff.mp above with rfl | above
    · exact isDirectory
    · exact ih (lookup_tail isDirectory) above

/-- A directory is found by the names that lead to it. -/
theorem locateWith_place {jump : List ν → List (Component ν) → Except Errno (Location ν)}
    (rest : List (Component ν)) :
    fs.locateWith follow jump [] (place.reverse.map .name ++ rest) =
      fs.locateWith follow jump place rest := by
  induction place generalizing rest with
  | nil => rfl
  | cons name place ih =>
    rw [List.reverse_cons, List.map_append, List.append_assoc, ih (lookup_tail isDirectory)]
    simp only [List.map_cons, List.map_nil, List.cons_append, List.nil_append,
      FileSystem.locateWith, isDirectory]

theorem locateFrom_place (rest : List (Component ν)) :
    fs.locateFrom follow links [] (place.reverse.map .name ++ rest) =
      fs.locateFrom follow links place rest := by
  cases links with
  | zero | succ links => exact locateWith_place isDirectory rest

theorem locate_directory {cwd : List ν} :
    fs.locate cwd follow (.ofPlace place) = .ok (.directory place) := by
  have descended : fs.locateFrom follow 40 [] (place.reverse.map .name ++ []) =
      fs.locateFrom follow 40 place [] := locateFrom_place isDirectory []
  rw [List.append_nil] at descended
  exact descended

omit isDirectory

/-- A path that is spelled out from the root leads to a location below it. -/
theorem locate_within {cwd place : List ν} {location : Location ν} (tame : fs.Tame root)
    (isRoot : fs.lookup root = some .directory) (inside : root <:+ place)
    (found : fs.locate cwd follow (.ofPlace place) = .ok location) : location.Within fs root := by
  obtain ⟨inner, rfl⟩ := inside
  have descended : fs.locateFrom follow 40 root (inner.reverse.map .name) = .ok location := by
    rw [← locateFrom_place isRoot, ← List.map_append, ← List.reverse_append]
    exact found
  refine locateFrom_within tame List.suffix_rfl (climbs_of_notMem ?_) descended
  simp

def Location.Taken : Location ν → Prop
  | .missing _ _ => False
  | _ => True

theorem locateWith_nofollow {jump stay : List ν → List (Component ν) → Except Errno (Location ν)}
    (jumps : ∀ place components target, jump place components = .ok (.directory target) →
      ∃ location, stay place components = .ok location ∧ location.Taken)
    {place target : List ν} {components : List (Component ν)}
    (found : fs.locateWith true jump place components = .ok (.directory target)) :
    ∃ location, fs.locateWith false stay place components = .ok location ∧ location.Taken := by
  induction components generalizing place with
  | nil => exact ⟨.directory place, rfl, trivial⟩
  | cons component rest ih =>
    cases component with
    | current | parent => exact ih found
    | name name =>
      unfold FileSystem.locateWith at found ⊢
      split at found
      · split_ifs at found
        cases found
      · exact ih found
      · rename_i inode isObject
        split at found
        · rename_i link isLink
          rw [if_neg (by simp)] at found
          by_cases last : (rest.isEmpty && !false) = true
          · exact ⟨.object place name inode, if_pos last, trivial⟩
          · rw [if_neg last]
            exact jumps _ _ target found
        · split_ifs at found
          cases found

/-- A path to a directory does not lead to a free name if a last link is not followed. -/
theorem locateFrom_nofollow {place target : List ν} {components : List (Component ν)}
    (found : fs.locateFrom true links place components = .ok (.directory target)) :
    ∃ location, fs.locateFrom false links place components = .ok location ∧ location.Taken := by
  induction links generalizing place target components with
  | zero =>
    apply locateWith_nofollow _ found
    intro place components target stopped
    cases stopped
  | succ links ih => exact locateWith_nofollow (fun _ _ _ => ih) found

theorem mkdir_of_isDirectory {cwd target : List ν} {path : Path ν}
    (found : fs.locate cwd true path = .ok (.directory target)) :
    fs.mkdir cwd path = .error .exists := by
  obtain ⟨location, isLocation, taken⟩ := locateFrom_nofollow found
  have located : fs.locate cwd false path = .ok location := isLocation
  unfold FileSystem.mkdir
  rw [located]
  cases location with
  | directory _ | object _ _ _ => rfl
  | missing _ _ => exact taken.elim

end Locate

/-- Outside the root there are the same names for the same objects, and names below the root lead to
other objects. -/
structure Untouched (base fs : FileSystem ν) (root : List ν) : Prop where
  names : ∀ place, ¬ root <:+ place → fs.lookup place = base.lookup place
  objects : ∀ inode, inode < base.objects.length → fs.objects[inode]? = base.objects[inode]?
  own : ∀ place inode, root <:+ place → fs.lookup place = some (.object inode) →
    base.objects.length ≤ inode

structure Sealed (base fs : FileSystem ν) (root : List ν) : Prop extends
    Untouched base fs root where
  isRoot : fs.lookup root = some .directory
  grown : base.objects.length ≤ fs.objects.length
  tame : fs.Tame root

theorem sealed_of_empty {fs : FileSystem ν} {root : List ν}
    (isRoot : fs.lookup root = some .directory)
    (empty : ∀ place, root <:+ place → place ≠ root → fs.lookup place = none) :
    Sealed fs fs root where
  names := fun _ _ => rfl
  objects := fun _ _ => rfl
  own := by
    intro place inode inside isObject
    by_cases top : place = root
    · rw [top, isRoot] at isObject
      cases isObject
    · rw [empty place inside top] at isObject
      cases isObject
  isRoot := isRoot
  grown := Nat.le_refl _
  tame := by
    intro name place inode target inside isObject
    rw [empty (name :: place) (inside.trans (List.suffix_cons name place))] at isObject
    · cases isObject
    · rintro rfl
      have longer := inside.length_le
      rw [List.length_cons] at longer
      omega

theorem attach_eq_ok {fs after : FileSystem ν} {place : List ν} {name : ν} {node : Node}
    (attached : fs.attach place name node = .ok after) :
    fs.lookup (name :: place) = none ∧ after.objects = fs.objects ∧
      ∀ other, after.lookup other =
        if other = name :: place then some node else fs.lookup other := by
  unfold FileSystem.attach at attached
  split_ifs at attached with fits
  obtain rfl := Except.ok.inj attached
  exact ⟨fits.2.1, rfl, fun other => nodeAt_insert other⟩

namespace Sealed

variable {base fs after : FileSystem ν} {root place : List ν}

/-- The object may be given a name at a place below the root. -/
def Admits (base fs : FileSystem ν) (root place : List ν) : Node → Prop
  | .directory => True
  | .object inode => base.objects.length ≤ inode ∧ ∀ target,
      fs.objects[inode]? = some (.symlink target) → Steady fs root place target

theorem attach {name : ν} {node : Node} (isSealed : Sealed base fs root) (inside : root <:+ place)
    (attached : fs.attach place name node = .ok after)
    (admits : Admits base fs root place node) : Sealed base after root := by
  obtain ⟨free, sameObjects, lookups⟩ := attach_eq_ok attached
  have below : root <:+ name :: place := inside.trans (List.suffix_cons name place)
  have keeps : ∀ other found, fs.lookup other = some found → after.lookup other = some found := by
    intro other found isFound
    rw [lookups, if_neg, isFound]
    rintro rfl
    rw [free] at isFound
    cases isFound
  constructor
  · constructor
    · intro other outside
      rw [lookups, if_neg, isSealed.names other outside]
      rintro rfl
      exact outside below
    · rw [sameObjects]
      exact isSealed.objects
    · intro other inode isInside isObject
      rw [lookups] at isObject
      split_ifs at isObject
      · obtain rfl := Option.some.inj isObject
        exact admits.1
      · exact isSealed.own other inode isInside isObject
  · exact keeps root _ isSealed.isRoot
  · rw [sameObjects]
    exact isSealed.grown
  · intro other directory inode target isInside isObject isLink
    rw [sameObjects] at isLink
    have steady : Steady fs root directory target := by
      rw [lookups] at isObject
      split_ifs at isObject with new
      · obtain rfl := Option.some.inj isObject
        obtain ⟨-, rfl⟩ := List.cons.inj new
        exact admits.2 target isLink
      · exact isSealed.tame other directory inode target isInside isObject isLink
    exact steady.mono fun path => keeps path _

variable {inode : Nat}

theorem inode_lt (found : fs.lookup place = some (.object inode)) : inode < fs.objects.length := by
  unfold FileSystem.lookup nodeAt at found
  split_ifs at found
  · cases found
  · exact fs.valid place _ found

variable (isSealed : Sealed base fs root)

include isSealed

theorem allocate (object : Object ν) : Sealed base (fs.allocate object) root where
  names := isSealed.names
  objects := by
    intro inode old
    rw [← isSealed.objects inode old]
    exact List.getElem?_append_left (Nat.lt_of_lt_of_le old isSealed.grown)
  own := isSealed.own
  isRoot := isSealed.isRoot
  grown := by
    refine Nat.le_trans isSealed.grown ?_
    simp [FileSystem.allocate]
  tame := by
    intro name directory inode target inside isObject isLink
    have old : inode < fs.objects.length := inode_lt (isObject : fs.lookup _ = _)
    have wasLink : fs.objects[inode]? = some (.symlink target) :=
      (List.getElem?_append_left old).symm.trans isLink
    exact (isSealed.tame name directory inode target inside isObject wasLink).mono fun _ => id

theorem modifyFile
    (own : base.objects.length ≤ inode) (change : Nat → List UInt8 → Nat × List UInt8) :
    Sealed base (fs.modifyFile inode change) root where
  names := isSealed.names
  objects := by
    intro other old
    have different : inode ≠ other := by omega
    rw [← isSealed.objects other old]
    exact List.getElem?_modify_ne _ _ different
  own := isSealed.own
  isRoot := isSealed.isRoot
  grown := by
    simpa [FileSystem.modifyFile] using isSealed.grown
  tame := by
    intro name directory other target inside isObject isLink
    have wasLink : fs.objects[other]? = some (.symlink target) := by
      simp only [FileSystem.modifyFile, List.getElem?_modify] at isLink
      obtain ⟨object, stored, changed⟩ := Option.map_eq_some_iff.mp isLink
      cases object with
      | file mode content =>
        dsimp only at changed
        split_ifs at changed
      | symlink old =>
        dsimp only at changed
        rw [ite_self] at changed
        rw [stored, changed]
    exact (isSealed.tame name directory other target inside isObject wasLink).mono fun _ => id

theorem within {cwd : List ν} {follow : Bool} {location : Location ν}
    (inside : root <:+ place) (found : fs.locate cwd follow (.ofPlace place) = .ok location) :
    location.Within fs root :=
  locate_within isSealed.tame isSealed.isRoot inside found

/-- Directories are made below the root; above it they are all there. -/
theorem mkdir {cwd : List ν} (related : root <:+ place ∨ place <:+ root)
    (made : fs.mkdir cwd (.ofPlace place) = .ok after) : Sealed base after root := by
  obtain ⟨location, found, done⟩ := Checks.bind_eq_ok.mp made
  have inside : location.Within fs root ∨ location = .directory place := by
    rcases related with inside | above
    · exact Or.inl (isSealed.within inside found)
    · have isDirectory := lookup_suffix isSealed.isRoot above
      exact Or.inr (Except.ok.inj (found.symm.trans (locate_directory isDirectory)))
  cases location with
  | directory _ | object _ _ _ => cases done
  | missing directory name =>
    rcases inside with inside | isDirectory
    · exact isSealed.attach inside done trivial
    · cases isDirectory

theorem symlink {cwd : List ν} {target : Path ν} (inside : root <:+ place)
    (steady : ∀ directory name, fs.locate cwd false (.ofPlace place) =
      .ok (.missing directory name) → Steady fs root directory target)
    (linked : fs.symlink cwd target (.ofPlace place) = .ok after) : Sealed base after root := by
  unfold FileSystem.symlink at linked
  split_ifs at linked
  obtain ⟨location, found, done⟩ := Checks.bind_eq_ok.mp linked
  have within := isSealed.within inside found
  cases location with
  | directory _ | object _ _ _ => cases done
  | missing directory name =>
    apply (isSealed.allocate _).attach within done
    refine ⟨isSealed.grown, fun other isLink => ?_⟩
    have isTarget : (fs.objects ++ [Object.symlink target])[fs.objects.length]? =
        some (.symlink other) := isLink
    rw [List.getElem?_concat_length] at isTarget
    obtain rfl := Object.symlink.inj (Option.some.inj isTarget)
    exact (steady directory name found).mono fun _ => id

theorem hardLink {cwd source : List ν} (sourceInside : root <:+ source) (inside : root <:+ place)
    (steady : ∀ origin known inode target directory name,
      fs.locate cwd false (.ofPlace source) = .ok (.object origin known inode) →
      fs.objects[inode]? = some (.symlink target) →
      fs.locate cwd false (.ofPlace place) = .ok (.missing directory name) →
      Steady fs root directory target)
    (linked : fs.hardLink cwd (.ofPlace source) (.ofPlace place) = .ok after) :
    Sealed base after root := by
  obtain ⟨origin, foundSource, rest⟩ := Checks.bind_eq_ok.mp linked
  have sourceWithin := isSealed.within sourceInside foundSource
  cases origin with
  | directory _ | missing _ _ => cases rest
  | object directory known inode =>
    obtain ⟨location, found, done⟩ := Checks.bind_eq_ok.mp rest
    have within := isSealed.within inside found
    cases location with
    | directory _ | object _ _ _ => cases done
    | missing place name =>
      apply isSealed.attach within done
      refine ⟨?_, fun target isLink => ?_⟩
      · exact isSealed.own _ inode (sourceWithin.1.trans (List.suffix_cons known directory))
          sourceWithin.2
      · exact steady directory known inode target place name foundSource isLink found

theorem openCreate {cwd : List ν} {mode : Nat} (inside : root <:+ place)
    (opened : fs.openCreate cwd mode (.ofPlace place) = .ok (after, inode)) :
    Sealed base after root ∧ base.objects.length ≤ inode := by
  obtain ⟨location, found, rest⟩ := Checks.bind_eq_ok.mp opened
  have within := isSealed.within inside found
  cases location with
  | directory _ => cases rest
  | object directory name old =>
    obtain ⟨rfl, rfl⟩ := Prod.mk.inj (Except.ok.inj rest)
    have own := isSealed.own _ old (within.1.trans (List.suffix_cons name directory)) within.2
    exact ⟨isSealed.modifyFile own _, own⟩
  | missing directory name =>
    obtain ⟨created, attached, done⟩ := Checks.bind_eq_ok.mp rest
    obtain ⟨rfl, rfl⟩ := Prod.mk.inj (Except.ok.inj done)
    refine ⟨(isSealed.allocate _).attach within attached ⟨isSealed.grown, ?_⟩, isSealed.grown⟩
    intro target isLink
    have isFile : (fs.objects ++ [Object.file mode []])[fs.objects.length]? =
        some (.symlink target) := isLink
    rw [List.getElem?_concat_length] at isFile
    cases isFile

end Sealed

section Scripts

open Script

variable {ε α : Type} {before : FileSystem ν → Prop} {stopped : Machine ν → Prop}
  {operation : FileSystem ν → Except Errno (FileSystem ν × α)}

theorem triple_attempt (before : FileSystem ν → Prop) (after : Except Errno α → FileSystem ν → Prop)
    (succeeds : ∀ fs final value, before fs → operation fs = .ok (final, value) →
      after (.ok value) final)
    (fails : ∀ fs reason, before fs → operation fs = .error reason ∨
      (∃ text, reason = .other text) → after (.error reason) fs) :
    Triple (fun machine => before machine.fs)
      (attempt operation : Script (Machine ν) ε (Except Errno α))
      (fun outcome machine => after outcome machine.fs) stopped := by
  intro machine holds
  unfold Script.run attempt
  cases machine.faults.head?.join with
  | some text => exact fails machine.fs _ holds (Or.inr ⟨text, rfl⟩)
  | none =>
    dsimp only
    cases done : operation machine.fs with
    | error reason => exact fails machine.fs reason holds (Or.inl done)
    | ok outcome => exact succeeds machine.fs outcome.1 outcome.2 holds done

/-- What is known after a call: the result of it, or what was known before. -/
def Settles (before : FileSystem ν → Prop) (after : α → FileSystem ν → Prop) :
    Except Errno α → FileSystem ν → Prop
  | .ok value, fs => after value fs
  | .error _, fs => before fs

theorem triple_call {explain : Errno → ε} (before : FileSystem ν → Prop)
    (after : α → FileSystem ν → Prop)
    (succeeds : ∀ fs final value, before fs → operation fs = .ok (final, value) →
      after value final)
    (fails : ∀ machine : Machine ν, before machine.fs → stopped machine) :
    Triple (fun machine => before machine.fs) (call explain operation)
      (fun value machine => after value machine.fs) stopped := by
  refine Triple.bind (fun outcome machine => Settles before after outcome machine.fs) ?_
    fun outcome => ?_
  · exact triple_attempt before (Settles before after) succeeds fun fs reason holds _ => holds
  · cases outcome with
    | ok value => exact triple_pure fun _ => id
    | error reason => exact triple_fail fails

variable {base : FileSystem ν} {root : List ν}

abbrev SealedMachine (base : FileSystem ν) (root : List ν) (machine : Machine ν) : Prop :=
  Sealed base machine.fs root

variable (holds : FileSystem ν → Prop)

theorem triple_query (read : FileSystem ν → Except Errno α) :
    Triple (fun machine => holds machine.fs)
      (attempt fun fs => (read fs).map (fs, ·) : Script (Machine ν) ε (Except Errno α))
      (fun _ machine => holds machine.fs) stopped := by
  refine triple_attempt holds (fun _ => holds) ?_ fun fs reason holds _ => holds
  intro fs final value holds done
  obtain ⟨result, -, same⟩ := Checks.map_eq_ok.mp done
  obtain ⟨rfl, -⟩ := Prod.mk.inj same
  exact holds

theorem triple_callQuery {explain : Errno → ε} (read : FileSystem ν → Except Errno α)
    (stops : ∀ machine : Machine ν, holds machine.fs → stopped machine) :
    Triple (fun machine => holds machine.fs) (call explain fun fs => (read fs).map (fs, ·))
      (fun _ machine => holds machine.fs) stopped := by
  refine Triple.bind _ (triple_query holds read) fun outcome => ?_
  cases outcome with
  | ok value => exact triple_pure fun _ => id
  | error reason => exact triple_fail stops

theorem triple_unlessDirectory (cwd : List ν) (path : Path ν) (reason : Errno) :
    Triple (fun machine => holds machine.fs) (unlessDirectory cwd path reason)
      (fun _ machine => holds machine.fs) (fun machine => holds machine.fs) := by
  refine Triple.bind _ (triple_query holds _) fun outcome => ?_
  split
  · exact triple_pure fun _ => id
  · exact triple_fail fun _ => id

theorem triple_mkdir (cwd : List ν) {place : List ν} (related : root <:+ place ∨ place <:+ root) :
    Triple (SealedMachine base root)
      (attempt fun fs => (fs.mkdir cwd (.ofPlace place)).map (·, ()) :
        Script (Machine ν) ε (Except Errno Unit))
      (fun _ => SealedMachine base root) stopped := by
  refine triple_attempt (Sealed base · root) (fun _ fs => Sealed base fs root) ?_
    fun fs reason holds _ => holds
  intro fs final value isSealed done
  obtain ⟨after, made, same⟩ := Checks.map_eq_ok.mp done
  obtain ⟨rfl, -⟩ := Prod.mk.inj same
  exact isSealed.mkdir related made

theorem triple_createDirAllFrom (cwd : List ν) {place : List ν}
    (related : root <:+ place ∨ place <:+ root) :
    Triple (SealedMachine base root) (createDirAllFrom cwd true (place.map .name))
      (fun _ => SealedMachine base root) (SealedMachine base root) := by
  induction place with
  | nil => exact triple_pure fun _ => id
  | cons name outer ih =>
    have relatedToo : root <:+ outer ∨ outer <:+ root := by
      rcases related with inside | above
      · rcases List.suffix_cons_iff.mp inside with rfl | inside
        · exact Or.inr (List.suffix_cons name outer)
        · exact Or.inl inside
      · exact Or.inr ((List.suffix_cons name outer).trans above)
    have isPath : (⟨true, (Component.name name :: outer.map .name).reverse⟩ : Path ν) =
        .ofPlace (name :: outer) := by
      rw [Path.ofPlace, List.map_reverse, List.map_cons]
    rw [List.map_cons, createDirAllFrom, isPath]
    refine Triple.bind _ (triple_mkdir cwd related) fun outcome => ?_
    split
    · exact triple_pure fun _ => id
    · refine Triple.bind _ (ih relatedToo) fun _ => ?_
      refine Triple.bind _ (triple_mkdir cwd related) fun again => ?_
      split
      · exact triple_pure fun _ => id
      · exact triple_unlessDirectory (Sealed base · root) cwd _ _
    · exact triple_unlessDirectory (Sealed base · root) cwd _ _

/-- Directories that are spelled out below the root or above it are made below it. -/
theorem triple_createDirAll (cwd : List ν) {place : List ν}
    (related : root <:+ place ∨ place <:+ root) :
    Triple (SealedMachine base root) (createDirAll cwd (.ofPlace place))
      (fun _ => SealedMachine base root) (SealedMachine base root) := by
  have components : (Path.ofPlace place).components.reverse = place.map .name := by
    rw [Path.ofPlace, List.map_reverse, List.reverse_reverse]
  rw [createDirAll, components]
  exact triple_createDirAllFrom cwd related

theorem triple_createDirAll_of_isDirectory {cwd target : List ν} {path : Path ν}
    (found : base.locate cwd true path = .ok (.directory target)) :
    Triple (fun machine => machine.fs = base) (createDirAll cwd path)
      (fun _ machine => machine.fs = base) (fun machine => machine.fs = base) := by
  unfold createDirAll
  cases components : path.components.reverse with
  | nil => exact triple_pure fun _ => id
  | cons last outer =>
    have isPath : (⟨path.absolute, (last :: outer).reverse⟩ : Path ν) = path := by
      rw [← components, List.reverse_reverse]
    rw [createDirAllFrom, isPath]
    refine Triple.bind (fun outcome machine => machine.fs = base ∧
      ∃ reason, outcome = .error reason ∧ reason ≠ .noEntry) ?_ fun outcome => ?_
    · refine triple_attempt (· = base) (fun outcome fs => fs = base ∧
        ∃ reason, outcome = .error reason ∧ reason ≠ .noEntry) ?_ ?_
      · rintro fs final value rfl done
        rw [mkdir_of_isDirectory found] at done
        cases done
      · rintro fs reason rfl (refused | ⟨text, rfl⟩)
        · rw [mkdir_of_isDirectory found] at refused
          obtain rfl := Except.error.inj refused
          exact ⟨rfl, _, rfl, by decide⟩
        · exact ⟨rfl, _, rfl, by simp⟩
    · refine triple_of_fact ?_
      rintro ⟨reason, rfl, notMissing⟩
      split
      · contradiction
      · rename_i same
        exact absurd (Except.error.inj same) notMissing
      · exact triple_unlessDirectory (· = base) cwd _ _

end Scripts

end Unix

import Cbs.Library.Dictionary
import Cbs.Library.Script

/-!
# A file system with links

Directories are known by the place where they lie, the innermost name first; one object can have
several names.  Paths are resolved component by component through symbolic links.
-/

namespace Unix

inductive Component (ν : Type) where
  | current
  | parent
  | name (name : ν)
  deriving DecidableEq

/-- A path; a slash at its end counts as a last component `current`. -/
structure Path (ν : Type) where
  /-- It starts at the root of the file system. -/
  absolute : Bool
  components : List (Component ν)
  deriving DecidableEq

def Path.ofPlace {ν : Type} (place : List ν) : Path ν :=
  ⟨true, place.reverse.map .name⟩

inductive Errno where
  | noEntry
  | exists
  | notDirectory
  | isDirectory
  | notPermitted
  | loop
  | other (text : String)
  deriving DecidableEq

inductive Node where
  | directory
  | object (inode : Nat)
  deriving DecidableEq

inductive Object (ν : Type) where
  | file (mode : Nat) (content : List UInt8)
  | symlink (target : Path ν)
  deriving DecidableEq

/-- The object exists, if the name leads to one. -/
def Node.Valid (count : Nat) : Node → Prop
  | directory => True
  | object inode => inode < count

instance (count : Nat) : (node : Node) → Decidable (node.Valid count)
  | .directory => isTrue trivial
  | .object inode => inferInstanceAs (Decidable (inode < count))

/-- What lies at a place; the root of the file system is a directory. -/
def nodeAt {ν : Type} [DecidableEq ν] (nodes : Dictionary (List ν) Node) (place : List ν) :
    Option Node :=
  if place = [] then some .directory else nodes.lookup place

theorem nodeAt_insert {ν : Type} [DecidableEq ν] {nodes : Dictionary (List ν) Node} {name : ν}
    {place : List ν} {node : Node} (other : List ν) :
    nodeAt (nodes.insert (name :: place) node) other =
      if other = name :: place then some node else nodeAt nodes other := by
  unfold nodeAt
  rw [Dictionary.lookup_insert_eq]
  by_cases top : other = []
  · subst top
    simp
  · simp only [if_neg top]

structure FileSystem (ν : Type) [DecidableEq ν] where
  nodes : Dictionary (List ν) Node
  objects : List (Object ν)
  parents : ∀ name place, (name :: place) ∈ nodes → nodeAt nodes place = some .directory
  valid : ∀ place node, nodes.lookup place = some node → node.Valid objects.length

inductive Location (ν : Type) where
  | directory (place : List ν)
  | object (place : List ν) (name : ν) (inode : Nat)
  | missing (place : List ν) (name : ν)
  deriving DecidableEq

namespace FileSystem

variable {ν : Type} [DecidableEq ν]

def lookup (fs : FileSystem ν) (place : List ν) : Option Node :=
  nodeAt fs.nodes place

/-- Follow a path from a directory; `jump` goes on when a symbolic link has been replaced by its
target. -/
def locateWith (fs : FileSystem ν) (follow : Bool)
    (jump : List ν → List (Component ν) → Except Errno (Location ν)) :
    List ν → List (Component ν) → Except Errno (Location ν)
  | place, [] => .ok (.directory place)
  | place, .current :: rest => fs.locateWith follow jump place rest
  | place, .parent :: rest => fs.locateWith follow jump place.tail rest
  | place, .name name :: rest =>
    match fs.lookup (name :: place) with
    | none => if rest.isEmpty then .ok (.missing place name) else .error .noEntry
    | some .directory => fs.locateWith follow jump (name :: place) rest
    | some (.object inode) =>
      match fs.objects[inode]? with
      | some (.symlink target) =>
        if rest.isEmpty && !follow then .ok (.object place name inode)
        else jump (if target.absolute then [] else place) (target.components ++ rest)
      | _ => if rest.isEmpty then .ok (.object place name inode) else .error .notDirectory

/-- Follow a path through a number of symbolic links at most. -/
def locateFrom (fs : FileSystem ν) (follow : Bool) :
    Nat → List ν → List (Component ν) → Except Errno (Location ν)
  | 0 => fs.locateWith follow fun _ _ => .error .loop
  | links + 1 => fs.locateWith follow (fs.locateFrom follow links)

/-- Where a path leads from a working directory; `follow` says whether a symbolic link at its end is
followed. -/
def locate (fs : FileSystem ν) (cwd : List ν) (follow : Bool) (path : Path ν) :
    Except Errno (Location ν) :=
  fs.locateFrom follow 40 (if path.absolute then [] else cwd) path.components

/-- Put something at a free place in a directory. -/
def attach (fs : FileSystem ν) (place : List ν) (name : ν) (node : Node) :
    Except Errno (FileSystem ν) :=
  if fits : fs.lookup place = some .directory ∧ fs.lookup (name :: place) = none ∧
      node.Valid fs.objects.length then
    .ok
      { fs with
        nodes := fs.nodes.insert (name :: place) node
        parents := by
          intro other directory inside
          have stays : ∀ path, fs.lookup path = some .directory →
              nodeAt (fs.nodes.insert (name :: place) node) path = some .directory := by
            intro path isDirectory
            rw [nodeAt_insert, if_neg]
            · exact isDirectory
            · rintro rfl
              rw [fits.2.1] at isDirectory
              cases isDirectory
          rcases (AList.mem_insert _).mp inside with same | old
          · obtain ⟨-, rfl⟩ := List.cons.inj same
            exact stays directory fits.1
          · exact stays directory (fs.parents other directory old)
        valid := by
          intro path other found
          rw [Dictionary.lookup_insert_eq] at found
          split_ifs at found
          · obtain rfl := Option.some.inj found
            exact fits.2.2
          · exact fs.valid path other found }
  else .error .noEntry

def allocate (fs : FileSystem ν) (object : Object ν) : FileSystem ν :=
  { fs with
    objects := fs.objects ++ [object]
    valid := by
      intro place node found
      have valid := fs.valid place node found
      cases node with
      | directory => trivial
      | object inode => exact Nat.lt_of_lt_of_le valid (by simp) }

def modifyFile (fs : FileSystem ν) (inode : Nat) (change : Nat → List UInt8 → Nat × List UInt8) :
    FileSystem ν :=
  { fs with
    objects := fs.objects.modify inode fun object =>
      match object with
      | .file mode content => .file (change mode content).1 (change mode content).2
      | .symlink target => .symlink target
    valid := by simpa using fs.valid }

variable (fs : FileSystem ν) (cwd : List ν)

/-- `mkdir`. -/
def mkdir (path : Path ν) : Except Errno (FileSystem ν) := do
  match ← fs.locate cwd false path with
  | .missing place name => fs.attach place name .directory
  | _ => .error .exists

/-- `symlink`. -/
def symlink (target path : Path ν) : Except Errno (FileSystem ν) := do
  if target = ⟨false, []⟩ then .error .noEntry
  else
    match ← fs.locate cwd false path with
    | .missing place name =>
      (fs.allocate (.symlink target)).attach place name (.object fs.objects.length)
    | _ => .error .exists

/-- `linkat`, which does not follow a symbolic link at the end of the source. -/
def hardLink (source path : Path ν) : Except Errno (FileSystem ν) := do
  match ← fs.locate cwd false source with
  | .directory _ => .error .notPermitted
  | .missing _ _ => .error .noEntry
  | .object _ _ inode =>
    match ← fs.locate cwd false path with
    | .missing place name => fs.attach place name (.object inode)
    | _ => .error .exists

/-- `open` for writing, which creates the file or empties it. -/
def openCreate (mode : Nat) (path : Path ν) : Except Errno (FileSystem ν × Nat) := do
  match ← fs.locate cwd true path with
  | .directory _ => .error .isDirectory
  | .object _ _ inode => .ok (fs.modifyFile inode fun mode _ => (mode, []), inode)
  | .missing place name => do
    let created ← (fs.allocate (.file mode [])).attach place name (.object fs.objects.length)
    .ok (created, fs.objects.length)

/-- `write` at the end of an open file. -/
def write (inode : Nat) (bytes : List UInt8) : FileSystem ν :=
  fs.modifyFile inode fun mode content => (mode, content ++ bytes)

/-- `fchmod`. -/
def fchmod (inode mode : Nat) : FileSystem ν :=
  fs.modifyFile inode fun _ content => (mode, content)

/-- `realpath`. -/
def realpath (path : Path ν) : Except Errno (List ν) := do
  match ← fs.locate cwd true path with
  | .directory place => .ok place
  | .object place name _ => .ok (name :: place)
  | .missing _ _ => .error .noEntry

/-- `stat`, of which only the question whether the path leads to a directory is answered. -/
def isDir (path : Path ν) : Except Errno Bool := do
  match ← fs.locate cwd true path with
  | .directory _ => .ok true
  | .object _ _ _ => .ok false
  | .missing _ _ => .error .noEntry

end FileSystem

/-- A file system, and which of the next calls fail although nothing in it is in the way. -/
structure Machine (ν : Type) [DecidableEq ν] where
  fs : FileSystem ν
  faults : List (Option String)

section Machine

variable {ν ε α : Type} [DecidableEq ν]

/-- Make a call and go on with its outcome. -/
def attempt (operation : FileSystem ν → Except Errno (FileSystem ν × α)) :
    Script (Machine ν) ε (Except Errno α) :=
  fun machine =>
    match machine.faults.head?.join with
    | some text => (.ok (.error (.other text)), { machine with faults := machine.faults.tail })
    | none =>
      match operation machine.fs with
      | .error reason => (.ok (.error reason), { machine with faults := machine.faults.tail })
      | .ok (fs, value) => (.ok (.ok value), ⟨fs, machine.faults.tail⟩)

/-- Make a call and stop if it fails. -/
def call (explain : Errno → ε) (operation : FileSystem ν → Except Errno (FileSystem ν × α)) :
    Script (Machine ν) ε α := do
  match ← attempt operation with
  | .ok value => pure value
  | .error reason => .fail (explain reason)

/-- Stop with an error, unless the path leads to a directory. -/
def unlessDirectory (cwd : List ν) (path : Path ν) (reason : Errno) :
    Script (Machine ν) Errno Unit := do
  match ← attempt fun fs => (fs.isDir cwd path).map (fs, ·) with
  | .ok true => pure ()
  | _ => .fail reason

/-- Make a directory and the directories that it lies in; the components of its path are given from
the last one on. -/
def createDirAllFrom (cwd : List ν) (absolute : Bool) :
    List (Component ν) → Script (Machine ν) Errno Unit
  | [] => pure ()
  | last :: outer => do
    let path := ⟨absolute, (last :: outer).reverse⟩
    match ← attempt fun fs => (fs.mkdir cwd path).map (·, ()) with
    | .ok () => pure ()
    | .error .noEntry => do
      createDirAllFrom cwd absolute outer
      match ← attempt fun fs => (fs.mkdir cwd path).map (·, ()) with
      | .ok () => pure ()
      | .error reason => unlessDirectory cwd path reason
    | .error reason => unlessDirectory cwd path reason

/-- Make a directory and the directories that it lies in. -/
def createDirAll (cwd : List ν) (path : Path ν) : Script (Machine ν) Errno Unit :=
  createDirAllFrom cwd path.absolute path.components.reverse

end Machine

end Unix

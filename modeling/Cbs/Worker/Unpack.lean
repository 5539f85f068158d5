import Cbs.Library.Checks
import Cbs.Paths

/-!
# Unpacking of component archives

The worker unpacks the entries of an archive below a directory of its own.  Paths and targets of
links are checked by their text, and the real path of a parent before anything is put in place.
-/

namespace Cbs

open Checks Unix

def displayPlace (place : List String) : String :=
  "/" ++ String.intercalate "/" place.reverse

/-- The directory that a place lies in, if it has one. -/
def parentPlace : List String → Option (List String)
  | [] => none
  | _ :: outer => some outer

/-- Collapse `.` and `..` on a stack of names. -/
def lexicalCleanOnto : List String → List (Component String) → Option (List String)
  | stack, [] => some stack
  | stack, .current :: rest => lexicalCleanOnto stack rest
  | [], .parent :: _ => none
  | _ :: stack, .parent :: rest => lexicalCleanOnto stack rest
  | stack, .name name :: rest => lexicalCleanOnto (name :: stack) rest

/-- Collapse `.` and `..` in an absolute path by its text alone. -/
def lexicalClean (path : Unix.Path String) : Option (List String) :=
  lexicalCleanOnto [] path.components

/-- The place below the root that a relative path names by its text. -/
def logicalNormalizeWithin (root : List String) (rel : Unix.Path String) : Option (List String) :=
  if rel.absolute then none
  else (lexicalClean (joinPath (.ofPlace root) rel)).filter (root <:+ ·)

inductive ComponentError where
  | integrityFailed (expected actual : String)
  | tempDir (error : IoError)
  | unpack (error : IoError)
  | containment (message : String)
  | rejectedEntryType (message : String)
  | capExceeded (cap : Nat)
  deriving DecidableEq

inductive ReadError where
  | cap (limit : Nat)
  | io (message : String)
  deriving DecidableEq

/-- What a failure to read the archive is reported as. -/
def ReadError.toComponentError : ReadError → ComponentError
  | cap limit => .capExceeded limit
  | io message => .unpack (.text message)

inductive EntryType where
  | regular
  | continuous
  | gnuSparse
  | directory
  | symlink
  | link
  | char
  | block
  | fifo
  | other (name : String)
  deriving DecidableEq

structure Entry where
  entryType : EntryType
  path : String
  size : Nat
  linkName : Option String
  chunks : List (List UInt8)
  /-- What reading it ends with, if not with its end. -/
  readError : Option ReadError
  /-- The mode in its header, or why it cannot be read. -/
  mode : Except String Nat
  deriving DecidableEq

/-- What is to be put in place. -/
inductive Action where
  | directory
  | regular
  | symlink (target : Unix.Path String)
  | hardLink (source : List String)
  deriving DecidableEq

def checkSymlink (root dest : List String) (entry : Entry) : Except ComponentError Action := do
  let text ← orError (.containment ("symlink entry '" ++ entry.path ++ "' has no link target"))
    entry.linkName
  let target := parsePath text
  require (target.absolute = false)
    (.containment ("symlink '" ++ entry.path ++ "' has absolute target '" ++ text ++ "'"))
  let linkDir := (parentPlace dest).getD root
  let cleaned ← orError
    (.containment ("symlink '" ++ entry.path ++ "' target '" ++ text ++
      "' escapes unpack root (logical check)"))
    (lexicalClean (joinPath (.ofPlace linkDir) target))
  require (root <:+ cleaned)
    (.containment ("symlink '" ++ entry.path ++ "' target '" ++ text ++ "' resolves to '" ++
      displayPlace cleaned ++ "' which escapes unpack root"))
  pure (.symlink target)

def checkHardLink (root : List String) (entry : Entry) : Except ComponentError Action := do
  let text ← orError (.containment ("hardlink entry '" ++ entry.path ++ "' has no link target"))
    entry.linkName
  let source ← orError
    (.containment ("hardlink '" ++ entry.path ++ "' target '" ++ text ++
      "' escapes unpack root (logical check)"))
    (logicalNormalizeWithin root (parsePath text))
  pure (.hardLink source)

/-- What an entry of a type puts in place. -/
def checkType (root dest : List String) (entry : Entry) : Except ComponentError Action :=
  match entry.entryType with
  | .directory => .ok .directory
  | .regular | .continuous | .gnuSparse => .ok .regular
  | .symlink => checkSymlink root dest entry
  | .link => checkHardLink root entry
  | .char => .error (.rejectedEntryType ("character device '" ++ entry.path ++ "'"))
  | .block => .error (.rejectedEntryType ("block device '" ++ entry.path ++ "'"))
  | .fifo => .error (.rejectedEntryType ("fifo '" ++ entry.path ++ "'"))
  | .other name =>
    .error (.rejectedEntryType ("unsupported tar entry type " ++ name ++ " at '" ++
      entry.path ++ "'"))

/-- The checks of an entry that do not look at the file system: where it goes and what it is. -/
def checkEntry (root : List String) (maxUncompressedBytes : Nat) (entry : Entry) :
    Except ComponentError (List String × Action) := do
  let dest ← orError
    (.containment ("entry path '" ++ entry.path ++ "' escapes unpack root (logical check)"))
    (logicalNormalizeWithin root (parsePath entry.path))
  require (entry.size ≤ maxUncompressedBytes) (.capExceeded maxUncompressedBytes)
  let action ← checkType root dest entry
  pure (dest, action)

structure UnpackEnv where
  cwd : List String
  createMode : Nat
  sha256 : List UInt8 → String
  /-- The entries of an archive as they are read up to a number of bytes. -/
  entries : List UInt8 → Nat → Except ReadError (List (Except ReadError Entry))

/-- Work on the file system. -/
abbrev Unpacking (α : Type) : Type :=
  Script (Machine String) ComponentError α

def unpackError (errno : Errno) : ComponentError :=
  .unpack (.os errno)

/-- Check that the parent of a place really lies below the root. -/
def verifyParentRealpathUnder (root dest : List String) : Script (Machine String) IoError Unit := do
  let parent := (parentPlace dest).getD root
  let parentReal ← call .os fun fs => (fs.realpath [] (.ofPlace parent)).map (fs, ·)
  if root <:+ parentReal then pure ()
  else .fail (.text ("parent of '" ++ displayPlace dest ++ "' resolves to '" ++
    displayPlace parentReal ++ "' which escapes unpack root '" ++ displayPlace root ++ "'"))

def createParent (dest : List String) : Unpacking Unit :=
  match parentPlace dest with
  | none => pure ()
  | some parent => (createDirAll [] (.ofPlace parent)).mapError unpackError

/-- Make the directory that a place lies in and check where it really is. -/
def prepareParent (root dest : List String) : Unpacking Unit := do
  createParent dest
  (verifyParentRealpathUnder root dest).mapError fun error => .containment error.toText

/-- Write what is read from an entry to an open file. -/
def copyChunks (inode : Nat) : List (List UInt8) → Unpacking Unit
  | [] => pure ()
  | chunk :: chunks => do
    call unpackError fun fs => .ok (fs.write inode chunk, ())
    copyChunks inode chunks

variable (env : UnpackEnv)

def writeFile (dest : List String) (entry : Entry) : Unpacking Unit := do
  let inode ← call unpackError fun fs => fs.openCreate [] env.createMode (.ofPlace dest)
  copyChunks inode entry.chunks
  .ofExcept (match entry.readError with
    | some reason => .error reason.toComponentError
    | none => .ok ())
  let mode ← .ofExcept (entry.mode.mapError fun message => .unpack (.text message))
  call unpackError fun fs => .ok (fs.fchmod inode (mode &&& 0o777), ())

def place (root dest : List String) (entry : Entry) : Action → Unpacking Unit
  | .directory => do
    prepareParent root dest
    (createDirAll [] (.ofPlace dest)).mapError unpackError
  | .regular => do
    prepareParent root dest
    writeFile env dest entry
  | .symlink target => do
    prepareParent root dest
    call unpackError fun fs => (fs.symlink [] target (.ofPlace dest)).map (·, ())
  | .hardLink source => do
    prepareParent root dest
    call unpackError fun fs => (fs.hardLink [] (.ofPlace source) (.ofPlace dest)).map (·, ())

def unpackOne (root : List String) (maxUncompressedBytes : Nat) (entry : Entry) :
    Unpacking Unit := do
  let checked ← .ofExcept (checkEntry root maxUncompressedBytes entry)
  place env root checked.1 entry checked.2

def unpackEntries (env : UnpackEnv) (root : List String) (maxUncompressedBytes : Nat) :
    List (Except ReadError Entry) → Unpacking Unit
  | [] => pure ()
  | item :: items => do
    let entry ← .ofExcept (item.mapError ReadError.toComponentError)
    unpackOne env root maxUncompressedBytes entry
    unpackEntries env root maxUncompressedBytes items

def unpackDir (tempDir sha256 : String) : String :=
  tempDir ++ (if tempDir = "" ∨ tempDir.toList.getLast? = some '/' then "" else "/") ++
    "component-" ++ String.ofList (sha256.toList.take 12)

/-- Make the directory for an archive and find out where it really is. -/
def openUnpackDir (tempDir sha256 : String) : Unpacking (List String) := do
  (createDirAll env.cwd (parsePath (unpackDir tempDir sha256))).mapError fun errno =>
    .tempDir (.os errno)
  call (fun errno => .tempDir (.os errno)) fun fs =>
    (fs.realpath env.cwd (parsePath (unpackDir tempDir sha256))).map (fs, ·)

def validateAndUnpack (tarballBytes : List UInt8) (expectedSha256 tempDir : String)
    (maxUncompressedBytes : Nat) : Unpacking String := do
  let actual := env.sha256 tarballBytes
  .ofExcept (require (actual = expectedSha256) (.integrityFailed expectedSha256 actual))
  let root ← openUnpackDir env tempDir actual
  let items ← .ofExcept
    ((env.entries tarballBytes maxUncompressedBytes).mapError ReadError.toComponentError)
  unpackEntries env root maxUncompressedBytes items
  pure (unpackDir tempDir actual)

end Cbs

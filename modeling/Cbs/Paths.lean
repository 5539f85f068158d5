import Cbs.Library.FileSystem
import Cbs.Library.Text

/-!
# Paths as text

The text of a path is split at its slashes.  What the calls of the file system are given, on the
server and on the worker, is read from such texts.
-/

namespace Cbs

open Unix

def parseComponent (part : String) : Component String :=
  if part = "." then .current else if part = ".." then .parent else .name part

def parsePath (text : String) : Unix.Path String where
  absolute := Text.startsWith text "/"
  components :=
    ((Text.split text '/').filter (· ≠ "")).map parseComponent ++
      if text.toList.getLast? = some '/' then [.current] else []

def joinPath (base path : Unix.Path String) : Unix.Path String :=
  if path.absolute then path else ⟨base.absolute, base.components ++ path.components⟩

/-- An error of the file system or of a reader. -/
inductive IoError where
  | os (errno : Errno)
  | text (message : String)
  deriving DecidableEq

def IoError.toText : IoError → String
  | os .noEntry => "No such file or directory (os error 2)"
  | os .exists => "File exists (os error 17)"
  | os .notDirectory => "Not a directory (os error 20)"
  | os .isDirectory => "Is a directory (os error 21)"
  | os .notPermitted => "Operation not permitted (os error 1)"
  | os .loop => "Too many levels of symbolic links (os error 40)"
  | os (.other description) => description
  | text message => message

end Cbs

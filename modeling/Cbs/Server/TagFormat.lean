import Cbs.Library.Checks
import Cbs.Library.Text
import Cbs.Proto

/-!
# Tag formats

The tag of a periodic build is written with placeholders in braces, which are replaced when the
build is triggered.  The result has to be a tag that a registry accepts.
-/

namespace Cbs

open Checks

structure DateTime where
  year : Int
  month : Nat
  day : Nat
  hour : Nat
  minute : Nat
  second : Nat
  deriving DecidableEq

/-- The decimal digits of a number, filled up with zeros on the left. -/
def padded (width number : Nat) : String :=
  String.ofList (List.replicate (width - (toString number).length) '0') ++ toString number

/-- A year with four digits; the sign of a negative one counts as a digit. -/
def paddedYear (year : Int) : String :=
  if year < 0 then "-" ++ padded 3 year.natAbs else padded 4 year.natAbs

/-- The name of an architecture. -/
def Arch.asStr : Arch → String
  | x86_64 => "x86_64"
  | aarch64 => "aarch64"

def resolvePlaceholder (name : String) (descriptor : BuildDescriptor) (now : DateTime) :
    Option String :=
  match name with
  | "Y" => some (paddedYear now.year)
  | "m" => some (padded 2 now.month)
  | "d" => some (padded 2 now.day)
  | "H" => some (padded 2 now.hour)
  | "M" => some (padded 2 now.minute)
  | "S" => some (padded 2 now.second)
  | "DT" => some (paddedYear now.year ++ padded 2 now.month ++ padded 2 now.day ++ "T" ++
      padded 2 now.hour ++ padded 2 now.minute ++ padded 2 now.second)
  | "version" => some descriptor.version
  | "base_tag" => some descriptor.dstImage.tag
  | "channel" => some (descriptor.channel.getD "")
  | "user" => some descriptor.signedOffBy.user
  | "arch" => some descriptor.build.arch.asStr
  | "distro" => some descriptor.build.distro
  | "os_version" => some descriptor.build.osVersion
  | _ => none

/-- What a placeholder is replaced by; one that is not known stays as it is. -/
def expandPlaceholder (resolve : String → Option String) (name : List Char) : List Char :=
  match resolve (String.ofList name) with
  | some value => value.toList
  | none => '{' :: name ++ ['}']

/-- Replace the placeholders in the rest of a format.  Inside braces, the characters read so far are
kept in reverse; a brace that is not closed stays as it is. -/
def interpolateFrom (resolve : String → Option String) :
    Option (List Char) → List Char → List Char
  | none, [] => []
  | some name, [] => '{' :: name.reverse
  | none, char :: rest =>
    if char = '{' then interpolateFrom resolve (some []) rest
    else char :: interpolateFrom resolve none rest
  | some name, char :: rest =>
    if char = '}' then
      expandPlaceholder resolve name.reverse ++ interpolateFrom resolve none rest
    else interpolateFrom resolve (some (char :: name)) rest

/-- Replace the placeholders of a format. -/
def interpolateTag (format : String) (descriptor : BuildDescriptor) (now : DateTime) : String :=
  String.ofList (interpolateFrom (resolvePlaceholder · descriptor now) none format.toList)

/-- The characters after the first one are letters, digits, underscores, dots and dashes. -/
def checkTagChars : List Char → Except String Unit
  | [] => .ok ()
  | char :: rest =>
    if char.isAlphanum ∨ char = '_' ∨ char = '.' ∨ char = '-' then checkTagChars rest
    else .error ("tag contains invalid character '" ++ String.singleton char ++
      "'; allowed: [a-zA-Z0-9_.-]")

def validateOciTag (tag : String) : Except String Unit :=
  match tag.toList with
  | [] => .error "tag must not be empty"
  | first :: rest => do
    require (Text.byteLength tag ≤ 128)
      ("tag exceeds 128 characters (got " ++ toString (Text.byteLength tag) ++ ")")
    require (first.isAlphanum ∨ first = '_')
      ("tag must start with [a-zA-Z0-9_], got '" ++ String.singleton first ++ "'")
    checkTagChars rest

end Cbs

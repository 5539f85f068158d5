import Mathlib.Algebra.GroupWithZero.Nat
import Mathlib.Data.List.Basic

/-!
# Searching in text

Matching and replacing in strings by their characters, in a form that evaluates.
-/

namespace Text

def startsWith (text pattern : String) : Bool :=
  pattern.toList.isPrefixOf text.toList

def contains (text pattern : String) : Bool :=
  text.toList.tails.any pattern.toList.isPrefixOf

/-- The text contains the lower-case pattern when its ASCII letters are put in lower case. -/
def containsLower (text pattern : String) : Bool :=
  (text.toList.map Char.toLower).tails.any pattern.toList.isPrefixOf

variable (text : String)

def stripSuffix (last : Char) : Option String :=
  if text.toList.getLast? = some last then some (String.ofList text.toList.dropLast) else none

def upTo (separator : Char) : String :=
  String.ofList (text.toList.takeWhile (· ≠ separator))

def splitList (separator : Char) : List Char → List (List Char)
  | [] => [[]]
  | first :: rest =>
    if first = separator then [] :: splitList separator rest
    else
      match splitList separator rest with
      | [] => [[first]]
      | part :: parts => (first :: part) :: parts

def split (separator : Char) : List String :=
  (splitList separator text.toList).map String.ofList

/-- Replace the occurrences of a pattern after `skip` characters, which belong to an occurrence that
was replaced already. -/
def replaceFrom (pattern value : List Char) : Nat → List Char → List Char
  | _, [] => []
  | skip + 1, _ :: rest => replaceFrom pattern value skip rest
  | 0, first :: rest =>
    if pattern.isPrefixOf (first :: rest) then
      value ++ replaceFrom pattern value (pattern.length - 1) rest
    else first :: replaceFrom pattern value 0 rest

/-- Replace the occurrences of a pattern, from the left and without overlap. -/
def replace (text pattern value : String) : String :=
  String.ofList (replaceFrom pattern.toList value.toList 0 text.toList)

def strip : String :=
  String.ofList ((text.toList.dropWhile Char.isWhitespace).reverse.dropWhile
    Char.isWhitespace).reverse

def rstrip : String :=
  String.ofList (text.toList.reverse.dropWhile Char.isWhitespace).reverse

theorem strip_ofList {letters : List Char}
    (solid : ∀ letter ∈ letters, letter.isWhitespace = false) :
    strip (String.ofList letters) = String.ofList letters := by
  have kept : ∀ letters : List Char, (∀ letter ∈ letters, letter.isWhitespace = false) →
      letters.dropWhile Char.isWhitespace = letters := by
    intro letters solid
    cases letters with
    | nil => rfl
    | cons first rest =>
      rw [List.dropWhile_cons, if_neg (by simp [solid first List.mem_cons_self])]
  rw [strip, String.toList_ofList, kept _ solid, kept _ fun letter inside =>
    solid letter (List.mem_reverse.mp inside), List.reverse_reverse]

def byteLength : Nat :=
  (text.toList.map Char.utf8Size).sum

theorem startsWith_iff {text start : String} :
    startsWith text start = true ↔ start.toList <+: text.toList :=
  List.isPrefixOf_iff_prefix

theorem stripSuffix_eq_some {text stem : String} {last : Char} :
    stripSuffix text last = some stem ↔ text.toList = stem.toList ++ [last] := by
  unfold stripSuffix
  rw [Option.ite_none_right_eq_some, Option.some.injEq]
  constructor
  · rintro ⟨ends, rfl⟩
    rw [String.toList_ofList]
    exact (List.dropLast_append_getLast? last ends).symm
  · intro whole
    rw [whole]
    simp

theorem getLast?_append {start finish : String} {char : Char}
    (ends : finish.toList.getLast? = some char) :
    (start ++ finish).toList.getLast? = some char := by
  rw [String.toList_append, List.getLast?_append, ends]
  rfl

end Text

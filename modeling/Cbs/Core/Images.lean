import Cbs.Core.Releases
import Cbs.Library.Regex

/-!
# Image references

The registry and path of an image, read back from a reference to it.
-/

namespace Cbs

open Regex Regex.Expr

structure ValueError where
  text : String
  deriving DecidableEq

/-- The characters of `[:@]`. -/
def isSeparator (only : Char) : Bool :=
  only = ':' || only = '@'

def imageRe : Expr :=
  seq (group "base" (plus (char fun only => !isSeparator only)))
    (seq (opt (seq (char isSeparator) (star any))) atEnd)

/-- The case of `get_container_image_base_uri` for texts; `baseUri` is the one for descriptors. -/
def getContainerImageBaseUri (uri : String) : Except ValueError String :=
  match imageRe.matchStart uri with
  | none => .error ⟨"malformed container image uri '" ++ uri ++ "'"⟩
  | some captured => .ok (String.ofList ((captured.lookup "base").getD []))

/-- A line break at the end of the text is taken for its end. -/
theorem line_iff {text : List Char} :
    '\n' ∉ text.dropLast ↔
      ∃ line newline, '\n' ∉ line ∧ (newline = [] ∨ newline = ['\n']) ∧ text = line ++ newline := by
  constructor
  · intro oneLine
    rcases List.eq_nil_or_concat' text with rfl | ⟨line, last, rfl⟩
    · exact ⟨[], [], by simp, Or.inl rfl, rfl⟩
    · rw [List.dropLast_concat] at oneLine
      by_cases ends : last = '\n'
      · exact ⟨line, ['\n'], oneLine, Or.inr rfl, by rw [ends]⟩
      · exact ⟨line ++ [last], [], by simp [oneLine, Ne.symm ends], Or.inl rfl, by simp⟩
  · rintro ⟨line, newline, oneLine, rfl | rfl, rfl⟩
    · rw [List.append_nil]
      exact fun inside => oneLine (List.dropLast_subset line inside)
    · rwa [List.dropLast_concat]

section Separated

variable {base rest : List Char} {separator : Char}
  (plain : base ≠ [] ∧ ∀ only ∈ base, isSeparator only = false)
  (separates : isSeparator separator = true)

include plain separates

/-- A match takes everything before the first separator for the base. -/
theorem base_of_matches {taken after : List Char} {captured : Captures}
    (isText : base ++ separator :: rest = taken ++ after)
    (matched : imageRe.Matches taken after captured) :
    captured.lookup "base" = some base ∧ '\n' ∉ rest.dropLast := by
  obtain ⟨found, _, _, _, rfl, rfl, ⟨_, isFound, rfl⟩, tail, _, _, _, rfl, rfl, isTail, rfl, rfl,
    ends⟩ := matched
  obtain ⟨-, run, rfl⟩ := matches_plus_char.mp isFound
  rcases isTail with ⟨_, line, _, _, rfl, rfl, ⟨⟨mark, isMark, rfl⟩, rfl⟩, isLine⟩ | ⟨rfl, rfl⟩
  · obtain ⟨oneLine, rfl⟩ := matches_star_char.mp isLine
    have stops : ∀ {mark rest}, isSeparator mark = true →
        Stops (fun only => !isSeparator only) (mark :: rest) := by
      simp +contextual [Stops]
    obtain ⟨rfl, sameRest⟩ := append_inj_of_stops (by simpa using plain.2) run (stops separates)
      (stops isMark) (by simpa using isText)
    refine ⟨rfl, line_iff.mpr ⟨line, after, fun inside => ?_, ends, (List.cons.inj sameRest).2⟩⟩
    simpa using oneLine _ inside
  · have inside : separator ∈ found ++ after := by
      rw [List.append_nil, List.append_nil] at isText
      simp [← isText]
    rcases List.mem_append.mp inside with inside | inside
    · simpa [separates] using run _ inside
    · rcases ends with rfl | rfl
      · cases inside
      · rw [List.mem_singleton.mp inside] at separates
        cases separates

theorem getContainerImageBaseUri_eq_ok {uri : String}
    (isUri : uri.toList = base ++ separator :: rest) {found : String} :
    getContainerImageBaseUri uri = .ok found ↔
      String.ofList base = found ∧ '\n' ∉ rest.dropLast := by
  unfold getContainerImageBaseUri
  constructor
  · intro isFound
    split at isFound
    · cases isFound
    · next captured matched =>
      obtain ⟨taken, after, isText, matched⟩ := matches_of_matchStart matched
      obtain ⟨isBase, oneLine⟩ := base_of_matches plain separates (isUri.symm.trans isText) matched
      rw [isBase] at isFound
      exact ⟨Except.ok.inj isFound, oneLine⟩
  · rintro ⟨rfl, oneLine⟩
    obtain ⟨line, newline, isLine, ends, rfl⟩ := line_iff.mp oneLine
    have matched : imageRe.Matches (base ++ separator :: line) newline [("base", base)] :=
      ⟨base, separator :: line, [("base", base)], [], rfl, rfl,
        ⟨[], matches_plus_char.mpr ⟨plain.1, by simpa using plain.2, rfl⟩, rfl⟩,
        separator :: line, [], [], [], by simp, rfl,
        Or.inl ⟨[separator], line, [], [], rfl, rfl, ⟨⟨separator, separates, rfl⟩, rfl⟩,
          matches_star_char.mpr ⟨fun only inside => by
            simpa using fun same : only = '\n' => isLine (same ▸ inside), rfl⟩⟩, rfl, rfl, ends⟩
    obtain ⟨captured, isCaptured⟩ := exists_matchStart (by simpa using isUri) matched
    obtain ⟨taken, after, isText, again⟩ := matches_of_matchStart isCaptured
    rw [isCaptured]
    simp only [(base_of_matches plain separates (isUri.symm.trans isText) again).1,
      Option.getD_some]

end Separated

/-- A reference is taken apart again if and only if its registry has no port, and its digest, or its
tag, has no line break before the last character. -/
theorem image_reference_taken_apart_iff {desc : VersionDescriptor} {host : String}
    {port : Option String} (isRegistry : desc.registry = host ++ port.elim "" (":" ++ ·))
    (isHost : host.toList ≠ [] ∧ ∀ only ∈ host.toList, isSeparator only = false)
    (isName : ∀ only ∈ desc.imageName.toList, isSeparator only = false) (digest : String) :
    getContainerImageBaseUri (desc.canonicalUri digest) = .ok desc.baseUri ↔
      port = none ∧ '\n' ∉ (if digest = "" then desc.tag else digest).toList.dropLast := by
  cases port with
  | none =>
    have plain : desc.baseUri.toList ≠ [] ∧
        ∀ only ∈ desc.baseUri.toList, isSeparator only = false := by
      have slash : isSeparator '/' = false := rfl
      simpa [VersionDescriptor.baseUri, isRegistry, or_imp, forall_and, slash]
        using ⟨isHost.2, isName⟩
    have isUri : (desc.canonicalUri digest).toList = desc.baseUri.toList ++
        (if digest = "" then ':' else '@') ::
          (if digest = "" then desc.tag else digest).toList := by
      unfold VersionDescriptor.canonicalUri
      split_ifs <;> simp
    rw [getContainerImageBaseUri_eq_ok plain (by split_ifs <;> rfl) isUri]
    simp
  | some port =>
    have isUri : (desc.canonicalUri digest).toList = host.toList ++ ':' :: (port.toList ++ '/' ::
        (desc.imageName.toList ++
          (if digest = "" then ":" ++ desc.tag else "@" ++ digest).toList)) := by
      simp [VersionDescriptor.canonicalUri, VersionDescriptor.baseUri, isRegistry]
    rw [getContainerImageBaseUri_eq_ok isHost rfl isUri]
    refine iff_of_false ?_ (by simp)
    rintro ⟨same, -⟩
    have lengths := congrArg (·.toList.length) same
    simp [VersionDescriptor.baseUri, isRegistry] at lengths

/-- An image at a registry without a port. -/
theorem portless_reference_taken_apart :
    let desc : VersionDescriptor :=
      ⟨"v18.2.7", "harbor.clyso.com", "ces/ceph", "v18.2.7", [], "", 9⟩
    getContainerImageBaseUri (desc.canonicalUri "sha256:abc") = .ok desc.baseUri :=
  (@image_reference_taken_apart_iff _ "harbor.clyso.com" none rfl
    (by simp [isSeparator]) (by simp [isSeparator]) _).mpr (by decide)

/-- Of a registry with a port, only the host is left. -/
theorem ported_reference_cut :
    let desc : VersionDescriptor := ⟨"v18.2.7", "localhost:5000", "ces/ceph", "v18.2.7", [], "", 9⟩
    desc.baseUri = "localhost:5000/ces/ceph" ∧
      getContainerImageBaseUri (desc.canonicalUri "") = .ok "localhost" := by
  decide +kernel

end Cbs

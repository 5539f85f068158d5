import Cbs.Library.Regex
import Mathlib.Data.List.Infix
import Mathlib.Data.List.Induction
import Mathlib.Tactic.Tauto

/-!
# Versions

The parser of version names, the normal form of a version, and the directories in which `crt` keeps
what belongs to a version.
-/

namespace Cbs

open Regex Regex.Expr

structure VersionParts where
  prefixPart : Option (List Char)
  major : List Char
  minor : Option (List Char)
  patch : Option (List Char)
  suffix : Option (List Char)
  deriving DecidableEq, Repr

structure MalformedVersionError where
  text : String
  deriving DecidableEq, Repr

/-- The characters of `[\w_.-]`. -/
def isSuffixChar (classes : Classes) (only : Char) : Bool :=
  classes.isWord only || only = '_' || only = '.' || only = '-'

/-- A separator, a named run of characters, and what may follow them, or nothing. -/
def partRe (separator : Char) (name : String) (test : Char → Bool) (tail : Expr) : Expr :=
  opt (seq (lit separator) (seq (group name (plus (char test))) tail))

/-- The parts after the major version. -/
def minorRe (classes : Classes) : Expr :=
  partRe '.' "minor" classes.isDigit
    (partRe '.' "patch" classes.isDigit (partRe '-' "suffix" (isSuffixChar classes) empty))

def versionRe (classes : Classes) : Expr :=
  seq (opt (seq (group "prefix" (plus (char classes.isWord))) (lit '-')))
    (seq (opt (lit 'v'))
      (seq (group "major" (plus (char classes.isDigit))) (seq (minorRe classes) atEnd)))

def VersionParts.ofCaptures (captured : Captures) : VersionParts where
  prefixPart := captured.lookup "prefix"
  major := (captured.lookup "major").getD []
  minor := captured.lookup "minor"
  patch := captured.lookup "patch"
  suffix := captured.lookup "suffix"

def parseVersion (classes : Classes) (version : String) :
    Except MalformedVersionError VersionParts :=
  match (versionRe classes).matchStart version with
  | none => .error ⟨"invalid version '" ++ version ++ "'"⟩
  | some captured => .ok (.ofCaptures captured)

def separated (separator : Char) (part : Option (List Char)) : List Char :=
  part.elim [] (separator :: ·)

/-- The prefix with its separator. -/
def VersionParts.front (parts : VersionParts) : List Char :=
  parts.prefixPart.elim [] (· ++ ['-'])

def VersionParts.numbers (parts : VersionParts) : List Char :=
  parts.major ++ (separated '.' parts.minor ++
    (separated '.' parts.patch ++ separated '-' parts.suffix))

def VersionParts.normal (parts : VersionParts) : List Char :=
  parts.front ++ 'v' :: parts.numbers

def normalizeVersion (classes : Classes) (version : String) :
    Except MalformedVersionError String := do
  let parts ← parseVersion classes version
  if parts.minor = none then .error ⟨version⟩ else .ok (String.ofList parts.normal)

/-- The names of the directories, from the top: `_parse_version_hierarchy`. -/
def parseVersionHierarchy (parts : VersionParts) (withPatchAndSuffix : Bool) : List (List Char) :=
  let base := 'v' :: parts.major
  let minorBase := base ++ separated '.' parts.minor
  let patchBase := minorBase ++ separated '.' parts.patch
  -- The base has the patch already when it is written once more before the suffix.
  let lastBase :=
    if withPatchAndSuffix && parts.suffix.isSome then
      patchBase ++ separated '.' parts.patch ++ separated '-' parts.suffix
    else patchBase
  let levels := base :: ((if parts.minor.isSome then [minorBase] else []) ++
    (if parts.patch.isSome then [lastBase] else []))
  let named := levels.map (parts.front ++ ·)
  if parts.suffix.isSome && !withPatchAndSuffix then
    named ++ [named.getLastD [] ++ separated '-' parts.suffix]
  else named

def splitVersionIntoPaths (classes : Classes) (version : String) (withPatchAndSuffix : Bool) :
    Except MalformedVersionError (List (List String)) := do
  let parts ← parseVersion classes version
  let names := (parseVersionHierarchy parts withPatchAndSuffix).map String.ofList
  .ok (names.foldl (fun paths name => paths ++ [paths.getLastD [] ++ [name]]) [])

variable {classes : Classes} {parts other : VersionParts}

/-- The text is not empty and its characters are in the class. -/
def IsRun (test : Char → Bool) (text : List Char) : Prop :=
  text ≠ [] ∧ ∀ only ∈ text, test only = true

/-- The parts are written with the right characters, and none comes after one that is missing. -/
structure VersionParts.WellFormed (classes : Classes) (parts : VersionParts) : Prop where
  prefixPart : ∀ text ∈ parts.prefixPart, IsRun classes.isWord text
  major : IsRun classes.isDigit parts.major
  minor : ∀ text ∈ parts.minor, IsRun classes.isDigit text
  patch : ∀ text ∈ parts.patch, IsRun classes.isDigit text ∧ parts.minor ≠ none
  suffix : ∀ text ∈ parts.suffix, IsRun (isSuffixChar classes) text ∧ parts.patch ≠ none

/-- The text spells the parts, maybe with a `v` before them and a newline at the end. -/
def VersionParts.Spells (parts : VersionParts) (text : List Char) : Prop :=
  ∃ letter newline, (letter = [] ∨ letter = ['v']) ∧ (newline = [] ∨ newline = ['\n']) ∧
    text = parts.front ++ (letter ++ (parts.numbers ++ newline))

variable {taken rest : List Char} {captured : Captures} {test : Char → Bool} {separator : Char}

theorem matches_run :
    (plus (char test)).Matches taken rest captured ↔ IsRun test taken ∧ captured = [] := by
  rw [matches_plus_char, IsRun, and_assoc]

theorem matches_partRe {name : String} {tail : Expr} :
    (partRe separator name test tail).Matches taken rest captured ↔
      ∃ (part : Option (List Char)) (more : List Char) (later : Captures),
        (∀ text ∈ part, IsRun test text) ∧ taken = separated separator part ++ more ∧
        captured = later ++ part.toList.map (Prod.mk name) ∧
        part.elim (more = [] ∧ later = []) fun _ => tail.Matches more rest later := by
  simp only [partRe, matches_opt, Matches, matches_lit, matches_run]
  constructor
  · rintro (⟨_, _, _, _, rfl, rfl, ⟨rfl, rfl⟩, part, more, _, later, rfl, rfl,
      ⟨_, ⟨isRun, rfl⟩, rfl⟩, tailMatches⟩ | ⟨rfl, rfl⟩)
    · exact ⟨some part, more, later, by simpa using isRun, rfl, by simp, tailMatches⟩
    · exact ⟨none, [], [], by simp, rfl, rfl, rfl, rfl⟩
  · rintro ⟨part, more, later, runs, rfl, rfl, follows⟩
    cases part with
    | none => exact Or.inr (by simpa [separated] using follows)
    | some part =>
      exact Or.inl ⟨[separator], part ++ more, [], _, rfl, (List.append_nil _).symm,
        ⟨rfl, rfl⟩, part, more, _, later, rfl, rfl, ⟨[], ⟨runs part rfl, rfl⟩, rfl⟩, follows⟩

def VersionParts.captures (parts : VersionParts) : Captures :=
  ((([] ++ parts.suffix.toList.map (Prod.mk "suffix")) ++
    parts.patch.toList.map (Prod.mk "patch")) ++ parts.minor.toList.map (Prod.mk "minor")) ++
    ("major", parts.major) :: parts.prefixPart.toList.map (Prod.mk "prefix")

theorem VersionParts.ofCaptures_captures (parts : VersionParts) :
    ofCaptures parts.captures = parts := by
  obtain ⟨prefixPart, major, minor, patch, suffix⟩ := parts
  cases prefixPart <;> cases minor <;> cases patch <;> cases suffix <;> rfl

theorem matches_front :
    (opt (seq (group "prefix" (plus (char test))) (lit '-'))).Matches taken rest captured ↔
      ∃ part : Option (List Char), (∀ text ∈ part, IsRun test text) ∧
        taken = part.elim [] (· ++ ['-']) ∧ captured = part.toList.map (Prod.mk "prefix") := by
  simp only [matches_opt, Matches, matches_lit, matches_run]
  constructor
  · rintro (⟨part, _, _, _, rfl, rfl, ⟨_, ⟨isRun, rfl⟩, rfl⟩, rfl, rfl⟩ | ⟨rfl, rfl⟩)
    · exact ⟨some part, by simpa using isRun, rfl, rfl⟩
    · exact ⟨none, by simp, rfl, rfl⟩
  · rintro ⟨part, runs, rfl, rfl⟩
    cases part with
    | none => exact Or.inr ⟨rfl, rfl⟩
    | some part =>
      exact Or.inl ⟨part, ['-'], _, [], rfl, rfl, ⟨[], ⟨runs part rfl, rfl⟩, rfl⟩, rfl, rfl⟩

theorem parts_of_matches {prefixPart : Option (List Char)} {major : List Char}
    (prefixRuns : ∀ text ∈ prefixPart, IsRun classes.isWord text)
    (majorRun : IsRun classes.isDigit major)
    (matched : (minorRe classes).Matches taken rest captured) :
    ∃ parts : VersionParts, parts.WellFormed classes ∧ parts.prefixPart = prefixPart ∧
      parts.numbers = major ++ taken ∧ parts.captures =
        captured ++ ("major", major) :: prefixPart.toList.map (Prod.mk "prefix") := by
  obtain ⟨minor, _, _, minorRuns, rfl, rfl, afterMinor⟩ := matches_partRe.mp matched
  cases minor with
  | none =>
    obtain ⟨rfl, rfl⟩ := afterMinor
    exact ⟨⟨prefixPart, major, none, none, none⟩,
      ⟨prefixRuns, majorRun, minorRuns, by simp, by simp⟩, rfl, rfl, rfl⟩
  | some minor =>
    obtain ⟨patch, _, _, patchRuns, rfl, rfl, afterPatch⟩ := matches_partRe.mp afterMinor
    cases patch with
    | none =>
      obtain ⟨rfl, rfl⟩ := afterPatch
      exact ⟨⟨prefixPart, major, some minor, none, none⟩,
        ⟨prefixRuns, majorRun, minorRuns, by simp, by simp⟩, rfl, rfl, rfl⟩
    | some patch =>
      obtain ⟨suffix, more, later, suffixRuns, rfl, rfl, afterSuffix⟩ :=
        matches_partRe.mp afterPatch
      obtain ⟨rfl, rfl⟩ : more = [] ∧ later = [] := by
        cases suffix <;> exact afterSuffix
      refine ⟨⟨prefixPart, major, some minor, some patch, suffix⟩,
        ⟨prefixRuns, majorRun, minorRuns, fun text isPatch => ⟨patchRuns text isPatch, by simp⟩,
          fun text isSuffix => ⟨suffixRuns text isSuffix, by simp⟩⟩, rfl, ?_, rfl⟩
      simp [VersionParts.numbers]

theorem spells_of_matches (matched : (versionRe classes).Matches taken rest captured) :
    ∃ parts : VersionParts, parts.WellFormed classes ∧ parts.Spells (taken ++ rest) ∧
      VersionParts.ofCaptures captured = parts := by
  obtain ⟨_, _, _, _, rfl, rfl, front, letter, _, early, _, rfl, rfl, isLetter, major, _, _, _, rfl,
    rfl, ⟨_, isMajor, rfl⟩, _, _, _, _, rfl, rfl, tail, rfl, rfl, ends⟩ := matched
  obtain ⟨prefixPart, prefixRuns, rfl, rfl⟩ := matches_front.mp front
  obtain ⟨majorRun, rfl⟩ := matches_run.mp isMajor
  obtain ⟨parts, wellFormed, rfl, isNumbers, isCaptures⟩ :=
    parts_of_matches prefixRuns majorRun tail
  obtain ⟨written, rfl⟩ : (letter = [] ∨ letter = ['v']) ∧ early = [] := by
    rcases isLetter with isLetter | ⟨isEmpty, isNothing⟩
    · exact ⟨Or.inr (matches_lit.mp isLetter).1, (matches_lit.mp isLetter).2⟩
    · exact ⟨Or.inl isEmpty, isNothing⟩
  have found := parts.ofCaptures_captures
  rw [isCaptures] at found
  refine ⟨parts, wellFormed, ⟨letter, rest, written, ends, ?_⟩, by simpa using found⟩
  simp [isNumbers, VersionParts.front]

theorem VersionParts.WellFormed.minor_of_patch (wellFormed : parts.WellFormed classes)
    (missing : parts.minor = none) : parts.patch = none :=
  Option.eq_none_iff_forall_ne_some.mpr fun patch isPatch =>
    (wellFormed.patch patch isPatch).2 missing

theorem VersionParts.WellFormed.patch_of_suffix (wellFormed : parts.WellFormed classes)
    (missing : parts.patch = none) : parts.suffix = none :=
  Option.eq_none_iff_forall_ne_some.mpr fun suffix isSuffix =>
    (wellFormed.suffix suffix isSuffix).2 missing

theorem exists_matches {text : List Char} (wellFormed : parts.WellFormed classes)
    (spells : parts.Spells text) :
    ∃ taken rest captured, text = taken ++ rest ∧
      (versionRe classes).Matches taken rest captured := by
  obtain ⟨letter, newline, isLetter, ends, rfl⟩ := spells
  have noMinor := wellFormed.minor_of_patch
  have noPatch := wellFormed.patch_of_suffix
  obtain ⟨prefixPart, major, minor, patch, suffix⟩ := parts
  obtain ⟨prefixRuns, majorRun, minorRuns, patchRuns, suffixRuns⟩ := wellFormed
  obtain ⟨captured, tailMatches⟩ : ∃ captured, (minorRe classes).Matches
      (separated '.' minor ++ (separated '.' patch ++ separated '-' suffix)) newline captured := by
    simp only [minorRe, matches_partRe]
    cases minor with
    | none =>
      obtain rfl := noMinor rfl
      obtain rfl := noPatch rfl
      exact ⟨[], none, [], [], by simp, rfl, rfl, rfl, rfl⟩
    | some minor =>
      refine ⟨_, some minor, _, _, minorRuns, rfl, rfl, patch, _,
        [] ++ suffix.toList.map (Prod.mk "suffix"), fun text isPatch => (patchRuns text isPatch).1,
        rfl, rfl, ?_⟩
      cases patch with
      | none =>
        obtain rfl := noPatch rfl
        exact ⟨rfl, rfl⟩
      | some patch =>
        exact ⟨suffix, [], [], fun text isSuffix => (suffixRuns text isSuffix).1, by simp, rfl,
          by cases suffix <;> exact ⟨rfl, rfl⟩⟩
  have letterMatches : ∀ rest, (opt (lit 'v')).Matches letter rest [] := by
    intro rest
    rcases isLetter with rfl | rfl
    · exact Or.inr ⟨rfl, rfl⟩
    · exact Or.inl (matches_lit.mpr ⟨rfl, rfl⟩)
  refine ⟨_, newline, _, ?_, _, _, _, _, rfl, rfl,
    matches_front.mpr ⟨prefixPart, prefixRuns, rfl, rfl⟩, letter, _, [], _, rfl, rfl,
    letterMatches _, major, _, _, _, rfl, rfl, ⟨[], matches_run.mpr ⟨majorRun, rfl⟩, rfl⟩, _, [],
    captured, [], rfl, rfl, tailMatches, rfl, rfl, ends⟩
  simp [VersionParts.front, VersionParts.numbers]

theorem stops_separated {part : Option (List Char)} (outside : test separator = false)
    (stops : Stops test rest) : Stops test (separated separator part ++ rest) := by
  cases part with
  | none => exact stops
  | some part =>
    intro next isNext
    cases isNext
    exact outside

theorem stops_newline {newline : List Char} (ends : newline = [] ∨ newline = ['\n'])
    (outside : test '\n' = false) : Stops test newline := by
  rcases ends with rfl | rfl <;> simp [Stops, outside]

theorem separated_inj {left right : Option (List Char)} {more others : List Char}
    (leftRuns : ∀ text ∈ left, IsRun test text) (rightRuns : ∀ text ∈ right, IsRun test text)
    (stopsMore : Stops test more) (stopsOthers : Stops test others)
    (endsLeft : left = none → Stops (· == separator) more)
    (endsRight : right = none → Stops (· == separator) others)
    (same : separated separator left ++ more = separated separator right ++ others) :
    left = right ∧ more = others := by
  cases left with
  | none =>
    cases right with
    | none => exact ⟨rfl, same⟩
    | some right =>
      have goesOn : more = separator :: (right ++ others) := same
      simpa [goesOn, Stops] using endsLeft rfl
  | some left =>
    cases right with
    | none =>
      have goesOn : separator :: (left ++ more) = others := same
      simpa [← goesOn, Stops] using endsRight rfl
    | some right =>
      obtain ⟨rfl, rfl⟩ := append_inj_of_stops (leftRuns left rfl).2 (rightRuns right rfl).2
        stopsMore stopsOthers (List.cons.inj same).2
      exact ⟨rfl, rfl⟩

namespace VersionParts

variable {newline others : List Char}

/-- What follows the major version does not go on with a character of a class without separators. -/
theorem stops_tail (ends : newline = [] ∨ newline = ['\n']) (noDot : test '.' = false)
    (noDash : test '-' = false) (noNewline : test '\n' = false) :
    Stops test (separated '.' parts.minor ++
      (separated '.' parts.patch ++ (separated '-' parts.suffix ++ newline))) :=
  stops_separated noDot (stops_separated noDot (stops_separated noDash
    (stops_newline ends noNewline)))

variable (wellFormed : parts.WellFormed classes)

include wellFormed

theorem numbers_inj (isOther : other.WellFormed classes)
    (ends : newline = [] ∨ newline = ['\n']) (otherEnds : others = [] ∨ others = ['\n'])
    (same : parts.numbers ++ newline = other.numbers ++ others) :
    parts.major = other.major ∧ parts.minor = other.minor ∧ parts.patch = other.patch ∧
      parts.suffix = other.suffix := by
  have noDot : classes.isDigit '.' = false := classes.not_digit (by simp)
  have noDash : classes.isDigit '-' = false := classes.not_digit (by simp)
  have noNewline : classes.isDigit '\n' = false := classes.not_digit (by simp)
  have noSuffix : isSuffixChar classes '\n' = false := by
    simp [isSuffixChar, classes.not_word]
  have stops : ∀ {parts : VersionParts} {newline : List Char}, newline = [] ∨ newline = ['\n'] →
      Stops classes.isDigit (separated '-' parts.suffix ++ newline) := fun ends =>
    stops_separated noDash (stops_newline ends noNewline)
  simp only [numbers, List.append_assoc] at same
  obtain ⟨sameMajor, same⟩ := append_inj_of_stops wellFormed.major.2 isOther.major.2
    (stops_tail ends noDot noDash noNewline) (stops_tail otherEnds noDot noDash noNewline) same
  have endsMinor : ∀ {parts : VersionParts} {newline : List Char}, parts.WellFormed classes →
      newline = [] ∨ newline = ['\n'] → parts.minor = none →
      Stops (· == '.') (separated '.' parts.patch ++ (separated '-' parts.suffix ++ newline)) := by
    intro parts newline wellFormed ends missing
    rw [wellFormed.patch_of_suffix (wellFormed.minor_of_patch missing),
      wellFormed.minor_of_patch missing]
    exact stops_newline ends rfl
  obtain ⟨sameMinor, same⟩ := separated_inj wellFormed.minor isOther.minor
    (stops_separated noDot (stops ends)) (stops_separated noDot (stops otherEnds))
    (endsMinor wellFormed ends) (endsMinor isOther otherEnds) same
  obtain ⟨samePatch, same⟩ := separated_inj (fun text isPatch => (wellFormed.patch text isPatch).1)
    (fun text isPatch => (isOther.patch text isPatch).1) (stops ends) (stops otherEnds)
    (fun _ => stops_separated rfl (stops_newline ends rfl))
    (fun _ => stops_separated rfl (stops_newline otherEnds rfl)) same
  obtain ⟨sameSuffix, -⟩ := separated_inj (fun text isSuffix => (wellFormed.suffix text isSuffix).1)
    (fun text isSuffix => (isOther.suffix text isSuffix).1) (stops_newline ends noSuffix)
    (stops_newline otherEnds noSuffix) (fun _ => stops_newline ends rfl)
    (fun _ => stops_newline otherEnds rfl) same
  exact ⟨sameMajor, sameMinor, samePatch, sameSuffix⟩

/-- A version without a prefix does not begin as one with a prefix. -/
theorem front_unprefixed {letter word : List Char}
    (isLetter : letter = [] ∨ letter = ['v']) (ends : newline = [] ∨ newline = ['\n'])
    (isWord : IsRun classes.isWord word) :
    letter ++ (parts.numbers ++ newline) ≠ word ++ ('-' :: rest) := by
  intro same
  have letters : ∀ only ∈ letter ++ parts.major, classes.isWord only = true := by
    intro only inside
    rcases List.mem_append.mp inside with inside | inside
    · rcases isLetter with rfl | rfl
      · cases inside
      · exact List.mem_singleton.mp inside ▸ classes.word_letter
    · exact classes.word_of_digit only (wellFormed.major.2 only inside)
  have noDash : Stops (· == '-') ('-' :: rest) := by
    simp only [numbers, List.append_assoc] at same
    rw [← List.append_assoc] at same
    obtain ⟨-, isTail⟩ := append_inj_of_stops letters isWord.2
      (stops_tail ends (classes.not_word (by simp)) (classes.not_word (by simp))
        (classes.not_word (by simp)))
      (by simp [Stops, classes.not_word]) same
    rw [← isTail]
    cases isMinor : parts.minor with
    | none =>
      rw [wellFormed.patch_of_suffix (wellFormed.minor_of_patch isMinor),
        wellFormed.minor_of_patch isMinor]
      exact stops_newline ends rfl
    | some minor => simp [Stops, separated]
  simp [Stops] at noDash

theorem numbers_ne_letter : parts.numbers ++ newline ≠ 'v' :: rest := by
  obtain ⟨first, major, isMajor⟩ := List.exists_cons_of_ne_nil wellFormed.major.1
  have digit := wellFormed.major.2 first (by simp [isMajor])
  intro same
  obtain rfl : first = 'v' := by simpa [numbers, isMajor] using congrArg List.head? same
  simp [classes.letter] at digit

theorem Spells.unique {text : List Char}
    (isOther : other.WellFormed classes) (spells : parts.Spells text)
    (spellsOther : other.Spells text) : parts = other := by
  obtain ⟨letter, newline, isLetter, ends, rfl⟩ := spells
  obtain ⟨second, others, isSecond, otherEnds, same⟩ := spellsOther
  obtain ⟨samePrefix, same⟩ : parts.prefixPart = other.prefixPart ∧
      letter ++ (parts.numbers ++ newline) = second ++ (other.numbers ++ others) := by
    unfold front at same
    cases isPrefix : parts.prefixPart with
    | none =>
      cases hasPrefix : other.prefixPart with
      | none => simpa [isPrefix, hasPrefix] using same
      | some word =>
        rw [isPrefix, hasPrefix] at same
        exact absurd (by simpa using same)
          (front_unprefixed wellFormed isLetter ends (isOther.prefixPart word hasPrefix))
    | some word =>
      cases hasPrefix : other.prefixPart with
      | none =>
        rw [isPrefix, hasPrefix] at same
        exact absurd (by simpa using same.symm)
          (front_unprefixed isOther isSecond otherEnds (wellFormed.prefixPart word isPrefix))
      | some otherWord =>
        have stopsDash : ∀ rest, Stops classes.isWord ('-' :: rest) := by
          simp [Stops, classes.not_word]
        rw [isPrefix, hasPrefix] at same
        simp only [Option.elim_some, List.append_assoc, List.singleton_append] at same
        obtain ⟨rfl, sameRest⟩ := append_inj_of_stops (wellFormed.prefixPart word isPrefix).2
          (isOther.prefixPart otherWord hasPrefix).2 (stopsDash _) (stopsDash _) same
        exact ⟨rfl, (List.cons.inj sameRest).2⟩
  have sameNumbers : parts.numbers ++ newline = other.numbers ++ others := by
    rcases isLetter with rfl | rfl <;> rcases isSecond with rfl | rfl
    · exact same
    · exact absurd same (numbers_ne_letter wellFormed)
    · exact absurd same.symm (numbers_ne_letter isOther)
    · exact (List.cons.inj same).2
  obtain ⟨sameMajor, sameMinor, samePatch, sameSuffix⟩ :=
    numbers_inj wellFormed isOther ends otherEnds sameNumbers
  cases parts
  cases other
  simp_all

end VersionParts

/-- The parser accepts exactly what spells a version, and finds its parts. -/
theorem parseVersion_eq_ok {version : String} :
    parseVersion classes version = .ok parts ↔
      parts.WellFormed classes ∧ parts.Spells version.toList := by
  have sound : ∀ {found}, (versionRe classes).matchStart version = some found →
      ∃ parts : VersionParts, parts.WellFormed classes ∧ parts.Spells version.toList ∧
        VersionParts.ofCaptures found = parts := by
    intro found isFound
    obtain ⟨taken, rest, isText, matched⟩ := matches_of_matchStart isFound
    exact isText ▸ spells_of_matches matched
  constructor
  · intro parsed
    unfold parseVersion at parsed
    split at parsed
    · cases parsed
    · next found isFound =>
      obtain ⟨_, wellFormed, spells, rfl⟩ := sound isFound
      cases parsed
      exact ⟨wellFormed, spells⟩
  · rintro ⟨wellFormed, spells⟩
    obtain ⟨taken, rest, captured, isText, matched⟩ := exists_matches wellFormed spells
    obtain ⟨found, isFound⟩ := exists_matchStart isText matched
    obtain ⟨_, isOther, spellsOther, rfl⟩ := sound isFound
    simp only [parseVersion, isFound]
    rw [spells.unique wellFormed isOther spellsOther]

namespace VersionParts

def levels (parts : VersionParts) (withPatchAndSuffix : Bool) : List VersionParts :=
  let major := { parts with minor := none, patch := none, suffix := none }
  let minor := { parts with patch := none, suffix := none }
  let patch := { parts with suffix := none }
  major :: ((if parts.minor = none then [] else [minor]) ++
    (if parts.patch = none then []
      else if parts.suffix = none || withPatchAndSuffix then [parts] else [patch, parts]))

theorem WellFormed.of_mem_levels {level : VersionParts} {withPatchAndSuffix : Bool}
    (wellFormed : parts.WellFormed classes) (isLevel : level ∈ parts.levels withPatchAndSuffix) :
    level.WellFormed classes := by
  obtain ⟨prefixRuns, majorRun, minorRuns, patchRuns, suffixRuns⟩ := wellFormed
  have cases : level = { parts with minor := none, patch := none, suffix := none } ∨
      level = { parts with patch := none, suffix := none } ∨
      level = { parts with suffix := none } ∨ level = parts := by
    unfold levels at isLevel
    split_ifs at isLevel <;> simp at isLevel <;> tauto
  rcases cases with rfl | rfl | rfl | rfl
  · exact ⟨prefixRuns, majorRun, by simp, by simp, by simp⟩
  · exact ⟨prefixRuns, majorRun, minorRuns, by simp, by simp⟩
  · exact ⟨prefixRuns, majorRun, minorRuns, patchRuns, by simp⟩
  · exact ⟨prefixRuns, majorRun, minorRuns, patchRuns, suffixRuns⟩

theorem WellFormed.parseVersion_normal (wellFormed : parts.WellFormed classes) :
    parseVersion classes (String.ofList parts.normal) = .ok parts :=
  parseVersion_eq_ok.mpr ⟨wellFormed, ['v'], [], Or.inr rfl, Or.inl rfl, by simp [normal]⟩

/-- If the patch is not written twice, the directories are named by the levels. -/
theorem WellFormed.parseVersionHierarchy_eq {withPatchAndSuffix : Bool}
    (wellFormed : parts.WellFormed classes)
    (once : withPatchAndSuffix = true → parts.suffix = none) :
    parseVersionHierarchy parts withPatchAndSuffix =
      (parts.levels withPatchAndSuffix).map normal := by
  have noMinor := wellFormed.minor_of_patch
  have noPatch := wellFormed.patch_of_suffix
  obtain ⟨prefixPart, major, minor, patch, suffix⟩ := parts
  cases minor <;> cases patch <;> cases suffix <;> cases withPatchAndSuffix <;>
    simp_all [parseVersionHierarchy, levels, normal, numbers, separated, front]

end VersionParts

/-- The paths of the loop are the initial segments of the names. -/
theorem foldl_paths (names : List String) :
    names.foldl (fun paths name => paths ++ [paths.getLastD [] ++ [name]]) [] =
      names.inits.tail ∧ names.inits.tail.getLastD [] = names := by
  induction names using List.reverseRecOn with
  | nil => exact ⟨rfl, rfl⟩
  | append_singleton names name ih =>
    have grown : (names ++ [name]).inits.tail = names.inits.tail ++ [names ++ [name]] := by
      rw [List.inits_append]
      cases names <;> simp
    rw [List.foldl_append, ih.1, grown, List.foldl_cons, ih.2]
    simp

variable {version : String} {withPatchAndSuffix : Bool} {names : List String}

theorem splitVersionIntoPaths_eq (accepted : parseVersion classes version = .ok parts) :
    splitVersionIntoPaths classes version withPatchAndSuffix =
      .ok ((parseVersionHierarchy parts withPatchAndSuffix).map String.ofList).inits.tail := by
  simp only [splitVersionIntoPaths, accepted]
  exact congrArg Except.ok (foldl_paths _).1

theorem normalizeVersion_eq_ok {normal : String} :
    normalizeVersion classes version = .ok normal ↔ ∃ parts : VersionParts,
      parseVersion classes version = .ok parts ∧ parts.minor ≠ none ∧
        String.ofList parts.normal = normal := by
  simp only [normalizeVersion]
  cases parseVersion classes version with
  | error refused => simp [bind, Except.bind]
  | ok parts => by_cases missing : parts.minor = none <;> simp [bind, Except.bind, missing]

theorem normalizeVersion_eq (accepted : parseVersion classes version = .ok parts)
    (given : parts.patch ≠ none) :
    normalizeVersion classes version = .ok (String.ofList parts.normal) := by
  have hasMinor : parts.minor ≠ none := fun missing =>
    given ((parseVersion_eq_ok.mp accepted).1.minor_of_patch missing)
  exact normalizeVersion_eq_ok.mpr ⟨parts, accepted, hasMinor, rfl⟩

theorem VersionParts.WellFormed.of_mem_normal (wellFormed : parts.WellFormed classes) {only : Char}
    (inside : only ∈ parts.normal) : isSuffixChar classes only = true := by
  have word : ∀ {only}, classes.isWord only = true → isSuffixChar classes only = true := by
    intro only isWord
    simp [isSuffixChar, isWord]
  have digit : ∀ {only}, classes.isDigit only = true → isSuffixChar classes only = true :=
    fun isDigit => word (classes.word_of_digit _ isDigit)
  have part : ∀ {part : Option (List Char)} {separator : Char},
      (separator = '.' ∨ separator = '-') →
      (∀ text ∈ part, ∀ only ∈ text, isSuffixChar classes only = true) →
      only ∈ separated separator part → isSuffixChar classes only = true := by
    intro part separator isSeparator runs inside
    cases part with
    | none => cases inside
    | some text =>
      rcases List.mem_cons.mp inside with rfl | inside
      · rcases isSeparator with rfl | rfl <;> simp [isSuffixChar]
      · exact runs text rfl only inside
  simp only [normal, numbers, List.mem_append, List.mem_cons] at inside
  rcases inside with inside | rfl | inside | inside | inside | inside
  · cases isPrefix : parts.prefixPart with
    | none => simp [front, isPrefix] at inside
    | some text =>
      obtain inside | rfl : only ∈ text ∨ only = '-' := by simpa [front, isPrefix] using inside
      · exact word ((wellFormed.prefixPart text isPrefix).2 only inside)
      · simp [isSuffixChar]
  · exact word classes.word_letter
  · exact digit (wellFormed.major.2 only inside)
  · exact part (Or.inl rfl)
      (fun text isMinor only inside => digit ((wellFormed.minor text isMinor).2 only inside)) inside
  · exact part (Or.inl rfl)
      (fun text isPatch only inside => digit ((wellFormed.patch text isPatch).1.2 only inside))
      inside
  · exact part (Or.inr rfl) (fun text isSuffix => (wellFormed.suffix text isSuffix).1.2) inside

/-- The normal form of a version is its own normal form and has the same parts, has only word
characters, dots and dashes, and is that of exactly the versions with the same parts. -/
theorem normalizeVersion_retracts {normal : String}
    (accepted : normalizeVersion classes version = .ok normal) :
    normalizeVersion classes normal = .ok normal ∧
      parseVersion classes normal = parseVersion classes version ∧
      (∀ only ∈ normal.toList, isSuffixChar classes only = true) ∧ '\n' ∉ normal.toList ∧
      ∀ other otherNormal, normalizeVersion classes other = .ok otherNormal →
        (normal = otherNormal ↔ parseVersion classes version = parseVersion classes other) := by
  obtain ⟨parts, parsed, hasMinor, rfl⟩ := normalizeVersion_eq_ok.mp accepted
  obtain ⟨wellFormed, -⟩ := parseVersion_eq_ok.mp parsed
  have characters : ∀ only ∈ (String.ofList parts.normal).toList,
      isSuffixChar classes only = true := by
    intro only inside
    exact wellFormed.of_mem_normal (by simpa using inside)
  have again := wellFormed.parseVersion_normal
  refine ⟨normalizeVersion_eq_ok.mpr ⟨parts, again, hasMinor, rfl⟩, again.trans parsed.symm,
    characters, fun inside => ?_, fun other otherNormal otherAccepted => ?_⟩
  · simpa [isSuffixChar, classes.not_word] using characters '\n' inside
  · obtain ⟨otherParts, otherParsed, -, rfl⟩ := normalizeVersion_eq_ok.mp otherAccepted
    obtain ⟨isOther, -⟩ := parseVersion_eq_ok.mp otherParsed
    constructor
    · intro same
      rw [parsed, otherParsed, ← again, same, isOther.parseVersion_normal]
    · intro same
      rw [parsed, otherParsed] at same
      rw [Except.ok.inj same]

theorem candidate_retracts :
    normalizeVersion .ascii "18.2.7-rc-1.2\n" = .ok "v18.2.7-rc-1.2" ∧
      normalizeVersion .ascii "v18.2.7-rc-1.2" = .ok "v18.2.7-rc-1.2" :=
  have accepted : normalizeVersion .ascii "18.2.7-rc-1.2\n" = .ok "v18.2.7-rc-1.2" := by
    decide +kernel
  ⟨accepted, (normalizeVersion_retracts accepted).1⟩

structure MirrorsVersion (classes : Classes) (version : String) (withPatchAndSuffix : Bool)
    (parts : VersionParts) (names : List String) : Prop where
  chain : splitVersionIntoPaths classes version withPatchAndSuffix = .ok names.inits.tail
  levels : names.map (parseVersion classes) = (parts.levels withPatchAndSuffix).map .ok
  last : parts.patch ≠ none → ∀ name ∈ names.getLast?, normalizeVersion classes version = .ok name
  apart : parts.patch ≠ none → ∀ {other otherParts paths},
    parseVersion classes other = .ok otherParts → otherParts.patch ≠ none →
    normalizeVersion classes other ≠ normalizeVersion classes version →
    splitVersionIntoPaths classes other withPatchAndSuffix = .ok paths →
    paths.getLast? ≠ some names

/-- The names of a version whose patch and suffix are put into one. -/
theorem parseVersionHierarchy_true {minor patch : List Char} (isMinor : parts.minor = some minor)
    (isPatch : parts.patch = some patch) :
    parseVersionHierarchy parts true =
      [parts.front ++ 'v' :: parts.major, parts.front ++ 'v' :: (parts.major ++ '.' :: minor),
        (parts.front ++ 'v' :: (parts.major ++ '.' :: minor)) ++ '.' :: (patch ++
          parts.suffix.elim [] fun suffix => '.' :: (patch ++ '-' :: suffix))] := by
  cases isSuffix : parts.suffix <;>
    simp [parseVersionHierarchy, isSuffix, isPatch, isMinor, separated]

theorem getLast_levels (given : parts.patch ≠ none) :
    (parts.levels withPatchAndSuffix).getLast? = some parts := by
  unfold VersionParts.levels
  split_ifs <;> simp

theorem eq_of_getLast_inits {others : List String}
    (last : names.inits.tail.getLast? = some others) : names = others := by
  rw [← (foldl_paths names).2, List.getLastD_eq_getLast?, last, Option.getD_some]

theorem VersionParts.WellFormed.exists_minor (wellFormed : parts.WellFormed classes)
    (given : parts.patch ≠ none) :
    ∃ minor patch, parts.minor = some minor ∧ parts.patch = some patch := by
  obtain ⟨patch, isPatch⟩ := Option.ne_none_iff_exists'.mp given
  obtain ⟨minor, isMinor⟩ := Option.ne_none_iff_exists'.mp (wellFormed.patch patch isPatch).2
  exact ⟨minor, patch, isMinor, isPatch⟩

/-- The names of a version without a suffix are not those of one with its patch written twice. -/
theorem hierarchy_ne_twice (wellFormed : parts.WellFormed classes) (given : parts.patch ≠ none)
    (noSuffix : parts.suffix = none) (isOther : other.WellFormed classes)
    (hasSuffix : other.suffix ≠ none) :
    parseVersionHierarchy other true ≠ parseVersionHierarchy parts true := by
  obtain ⟨suffix, isSuffix⟩ := Option.ne_none_iff_exists'.mp hasSuffix
  obtain ⟨minor, patch, isMinor, isPatch⟩ := wellFormed.exists_minor given
  obtain ⟨otherMinor, otherPatch, otherIsMinor, otherIsPatch⟩ :=
    isOther.exists_minor (isOther.suffix suffix isSuffix).2
  rw [parseVersionHierarchy_true isMinor isPatch,
    parseVersionHierarchy_true otherIsMinor otherIsPatch, isSuffix, noSuffix]
  intro same
  obtain ⟨-, sameMinor, samePatch, -⟩ := by simpa only [List.cons.injEq] using same
  rw [sameMinor] at samePatch
  obtain rfl : otherPatch ++ '.' :: (otherPatch ++ '-' :: suffix) = patch := by
    simpa using (List.cons.inj (List.append_cancel_left samePatch)).2
  have digits := (wellFormed.patch _ isPatch).1.2 '.' (by simp)
  simp [classes.not_digit] at digits

/-- The directories mirror a version if and only if its patch and its suffix are not to be put into
one name. -/
theorem mirrors_version_iff (accepted : parseVersion classes version = .ok parts) :
    (∃ names, MirrorsVersion classes version withPatchAndSuffix parts names) ↔
      (withPatchAndSuffix = true → parts.suffix = none) := by
  obtain ⟨wellFormed, -⟩ := parseVersion_eq_ok.mp accepted
  constructor
  · rintro ⟨names, chain, -, last, -⟩ rfl
    have same := Except.ok.inj (chain.symm.trans (splitVersionIntoPaths_eq accepted))
    obtain rfl : names = _ := by
      rw [← (foldl_paths names).2, same, (foldl_paths _).2]
    refine Option.eq_none_iff_forall_ne_some.mpr fun suffix isSuffix => ?_
    have given := (wellFormed.suffix suffix isSuffix).2
    obtain ⟨minor, patch, isMinor, isPatch⟩ := wellFormed.exists_minor given
    have isLast := last given _ (by rw [parseVersionHierarchy_true isMinor isPatch]; rfl)
    rw [normalizeVersion_eq accepted given] at isLast
    have lengths := congrArg List.length (String.ofList_injective (Except.ok.inj isLast))
    simp [VersionParts.normal, VersionParts.numbers, isSuffix, isPatch, isMinor, separated]
      at lengths
    omega
  · intro once
    have isHierarchy := wellFormed.parseVersionHierarchy_eq once
    refine ⟨_, splitVersionIntoPaths_eq accepted, ?_, ?_, ?_⟩
    · rw [isHierarchy, List.map_map, List.map_map]
      refine List.map_congr_left fun level isLevel => ?_
      exact (wellFormed.of_mem_levels isLevel).parseVersion_normal
    · intro given name isLast
      rw [isHierarchy, List.getLast?_map, List.getLast?_map, getLast_levels given] at isLast
      cases isLast
      exact normalizeVersion_eq accepted given
    · intro given other otherParts paths parsed otherGiven different split last
      obtain ⟨isOther, -⟩ := parseVersion_eq_ok.mp parsed
      obtain rfl := Except.ok.inj ((splitVersionIntoPaths_eq parsed).symm.trans split)
      have same := List.map_injective_iff.mpr (fun _ _ => String.ofList_injective)
        (eq_of_getLast_inits last)
      by_cases otherOnce : withPatchAndSuffix = true → otherParts.suffix = none
      · rw [isHierarchy, isOther.parseVersionHierarchy_eq otherOnce] at same
        have sameLast := congrArg List.getLast? same
        rw [List.getLast?_map, List.getLast?_map, getLast_levels given, getLast_levels otherGiven]
          at sameLast
        apply different
        rw [normalizeVersion_eq accepted given, normalizeVersion_eq parsed otherGiven,
          Option.some.inj sameLast]
      · obtain ⟨rfl, hasSuffix⟩ := Classical.not_imp.mp otherOnce
        exact hierarchy_ne_twice wellFormed given (once rfl) isOther hasSuffix same

/-- A release without a suffix is mirrored. -/
theorem release_mirrored :
    ∃ parts, parseVersion .ascii "ces-v18.2.7" = .ok parts ∧
      ∃ names, MirrorsVersion .ascii "ces-v18.2.7" true parts names :=
  ⟨⟨some "ces".toList, "18".toList, some "2".toList, some "7".toList, none⟩, by decide +kernel,
    (mirrors_version_iff (by decide +kernel)).mpr fun _ => rfl⟩

/-- The last directory of a release candidate is not named by a version. -/
theorem candidate_not_mirrored :
    splitVersionIntoPaths .ascii "v18.2.7-rc1" true =
        .ok [["v18"], ["v18", "v18.2"], ["v18", "v18.2", "v18.2.7.7-rc1"]] ∧
      normalizeVersion .ascii "v18.2.7-rc1" = .ok "v18.2.7-rc1" ∧
      parseVersion .ascii "v18.2.7.7-rc1" = .error ⟨"invalid version 'v18.2.7.7-rc1'"⟩ := by
  decide +kernel

end Cbs

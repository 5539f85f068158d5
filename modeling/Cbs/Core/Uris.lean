import Cbs.Library.Regex
import Mathlib.Data.ENat.Basic

/-!
# Secrets for URIs

Secrets are stored under targets, whose paths are pasted into a regular expression.  Of the targets
that match a URI, the search keeps the one that leaves the fewest segments open.
-/

namespace Cbs

open Regex Expr

structure UriError where
  msg : String
  deriving DecidableEq

/-- The characters of `[\w\.\-]`. -/
def isNameChar (classes : Classes) (only : Char) : Bool :=
  classes.isWord only || only = '.' || only = '-'

def uriRe (classes : Classes) : Expr :=
  let protocol := alt (word "git".toList) (alt (seq (word "http".toList) (opt (lit 's')))
    (word "ssh".toList))
  seq (opt (seq (group "protocol" protocol) (word "://".toList)))
    (seq (group "host" (plus (char (isNameChar classes))))
      (seq (opt (group "path" (star (seq (lit '/') (plus (char (isNameChar classes)))))))
        (seq (opt (lit '/')) atEnd)))

/-- Drop the suffix `.git`, also before a newline that ends the text. -/
def dropGit (text : String) : String :=
  (seq (word ".git".toList) atEnd).sub (fun _ => []) text

/-- A path pasted into an expression: of the characters that it can have, only the dot has a meaning
there. -/
def pasted : List Char → Expr
  | [] => empty
  | first :: rest => seq (if first = '.' then any else lit first) (pasted rest)

/-- Whether a target matches, whether it matches the whole path, and the remainder of the path
otherwise. -/
@[irreducible]
def matchesUri (classes : Classes) (target whole : String) :
    Except UriError (Bool × Bool × Option String) :=
  let pattern := dropGit target
  let uri := dropGit whole
  match (uriRe classes).matchStart pattern, (uriRe classes).matchStart uri with
  | some patternM, some uriM =>
    if (patternM.lookup "protocol").isSome && (uriM.lookup "protocol").isSome &&
        patternM.lookup "protocol" ≠ uriM.lookup "protocol" then .ok (false, false, none)
    else if patternM.lookup "host" ≠ uriM.lookup "host" then .ok (false, false, none)
    else
      let patternPath := (patternM.lookup "path").getD []
      let urlPath := (uriM.lookup "path").getD []
      if patternPath = urlPath then .ok (true, true, none)
      else
        let adjusted := (patternPath.reverse.dropWhile (· = '/')).reverse
        let pathRe := seq (pasted adjusted)
          (seq (alt (lit '/') atEnd) (seq (group "remainder" (star any)) atEnd))
        match pathRe.matchStart (String.ofList urlPath) with
        | none => .ok (false, false, none)
        | some remainderM =>
          match (remainderM.lookup "remainder").getD [] with
          | [] => .error ⟨"unexpected empty remainder when matching git url '" ++ uri ++
              "' against pattern '" ++ pattern ++ "'"⟩
          | first :: rest => .ok (true, false, some (String.ofList (first :: rest)))
  | _, _ => .ok (false, false, none)

/-- The text is there and not empty. -/
def truthy (text : Option String) : Bool :=
  text.any (· ≠ "")

def slashes (text : Option String) : Nat :=
  (text.getD "").toList.count '/'

/-- The candidate to keep when another target matches in part. -/
def betterCandidate (best : Option (String × Option String)) (target : String)
    (remainder : Option String) : String × Option String :=
  match best with
  | none => (target, remainder)
  | some held =>
    if !truthy held.2 && truthy remainder then (target, remainder)
    else if truthy held.2 && truthy remainder && slashes remainder < slashes held.2 then
      (target, remainder)
    else held

variable (classes : Classes) (uri : String)

/-- The loop over the targets; an error passes over a target. -/
def searchCandidates : Option (String × Option String) → List String → Option String
  | best, [] => best.map Prod.fst
  | best, target :: targets =>
    match matchesUri classes target uri with
    | .ok (true, true, _) => some target
    | .ok (true, false, remainder) =>
      searchCandidates (some (betterCandidate best target remainder)) targets
    | _ => searchCandidates best targets

def findBestSecretCandidate (secrets : List String) : Option String :=
  searchCandidates classes uri none secrets

/-- The number of path segments that a target leaves open: none if it matches fully, and infinitely
many if it does not match. -/
def openSegments (target : String) : ℕ∞ :=
  match matchesUri classes target uri with
  | .ok (true, true, _) => 0
  | .ok (true, false, remainder) => (slashes remainder + 1 : Nat)
  | _ => ⊤

def openAfter (result : Option String) : ℕ∞ :=
  result.elim ⊤ (openSegments classes uri)

variable {classes} {uri} {target : String} {targets : List String}

/-- A target that matches in part leaves a text that is not empty. -/
theorem truthy_of_matchesUri {remainder : Option String}
    (matched : matchesUri classes target uri = .ok (true, false, remainder)) :
    truthy remainder = true := by
  unfold matchesUri at matched
  dsimp only at matched
  split at matched
  · split_ifs at matched
    · cases matched
    · cases matched
    · cases matched
    · split at matched
      · cases matched
      · split at matched
        · cases matched
        · cases matched
          exact decide_eq_true fun same => by simpa using congrArg String.toList same
  · cases matched

variable {best : Option (String × Option String)}
  (held : ∀ entry ∈ best, matchesUri classes entry.1 uri = .ok (true, false, entry.2))

include held

/-- Of two targets that match in part, the one with fewer segments open is kept. -/
theorem betterCandidate_spec {remainder : Option String}
    (matched : matchesUri classes target uri = .ok (true, false, remainder)) :
    matchesUri classes (betterCandidate best target remainder).1 uri =
        .ok (true, false, (betterCandidate best target remainder).2) ∧
      (betterCandidate best target remainder).1 ∈ best.toList.map Prod.fst ++ [target] ∧
      ∀ other ∈ best.toList.map Prod.fst ++ [target],
        openSegments classes uri (betterCandidate best target remainder).1 ≤
          openSegments classes uri other := by
  cases best with
  | none => simpa [betterCandidate] using matched
  | some entry =>
    have isHeld := held entry rfl
    simp only [betterCandidate, truthy_of_matchesUri matched, truthy_of_matchesUri isHeld]
    by_cases fewer : slashes remainder < slashes entry.2
    · simpa [fewer, openSegments, isHeld, matched] using Nat.le_of_lt fewer
    · simpa [fewer, openSegments, isHeld, matched] using Nat.le_of_not_lt fewer

/-- The loop finds the best of what it holds and what is left. -/
theorem searchCandidates_spec :
    (∀ found ∈ searchCandidates classes uri best targets,
        found ∈ best.toList.map Prod.fst ++ targets ∧ openSegments classes uri found ≠ ⊤) ∧
      ∀ target ∈ best.toList.map Prod.fst ++ targets,
        openAfter classes uri (searchCandidates classes uri best targets) ≤
          openSegments classes uri target := by
  induction targets generalizing best with
  | nil =>
    cases best with
    | none => exact ⟨nofun, nofun⟩
    | some entry => simp [searchCandidates, openAfter, openSegments, held entry rfl]
  | cons target targets ih =>
    unfold searchCandidates
    split
    · rename_i remainder matched
      simp [openAfter, show openSegments classes uri target = 0 by rw [openSegments, matched]]
    · rename_i remainder matched
      obtain ⟨isKept, inside, fewer⟩ := betterCandidate_spec held matched
      generalize betterCandidate best target remainder = entry at *
      obtain ⟨found, least⟩ := @ih (some entry) (by simpa using isKept)
      rw [List.append_cons]
      refine ⟨fun result isFound => ⟨?_, (found result isFound).2⟩, fun other isOther => ?_⟩
      · rcases List.mem_cons.mp (found result isFound).1 with rfl | later
        · exact List.mem_append_left _ inside
        · exact List.mem_append_right _ later
      · rcases List.mem_append.mp isOther with early | later
        · exact (least entry.1 List.mem_cons_self).trans (fewer other early)
        · exact least other (List.mem_cons_of_mem _ later)
    · rename_i unmatched partly
      have unmatched : openSegments classes uri target = ⊤ := by
        unfold openSegments
        split <;> simp_all
      obtain ⟨found, least⟩ := ih held
      constructor
      · intro result isFound
        obtain ⟨inside, matched⟩ := found result isFound
        exact ⟨by simp at inside ⊢; tauto, matched⟩
      · intro other isOther
        by_cases isTarget : other = target
        · simp [isTarget, unmatched]
        · exact least other (by simpa [isTarget] using isOther)

omit held

/-- The search finds nothing exactly when no target matches, and otherwise a full match if there is
one and as few open segments as any target has, in whatever order the targets come. -/
theorem most_specific_secret_wins (classes : Classes) (targets : List String) (uri : String) :
    (findBestSecretCandidate classes uri targets = none ↔
        ∀ target ∈ targets, openSegments classes uri target = ⊤) ∧
      (∀ best ∈ findBestSecretCandidate classes uri targets,
        best ∈ targets ∧ openSegments classes uri best ≠ ⊤ ∧
        ((∃ target ∈ targets, openSegments classes uri target = 0) →
          openSegments classes uri best = 0) ∧
        ∀ target ∈ targets, openSegments classes uri best ≤ openSegments classes uri target) ∧
      ∀ permuted : List String, permuted.Perm targets →
        openAfter classes uri (findBestSecretCandidate classes uri permuted) =
          openAfter classes uri (findBestSecretCandidate classes uri targets) := by
  unfold findBestSecretCandidate
  have spec := fun targets => @searchCandidates_spec classes uri targets none nofun
  have fewest {targets permuted : List String} (subset : targets ⊆ permuted) :
      openAfter classes uri (searchCandidates classes uri none permuted) ≤
        openAfter classes uri (searchCandidates classes uri none targets) := by
    cases isFound : searchCandidates classes uri none targets with
    | none => exact le_top
    | some found => exact (spec permuted).2 found (subset ((spec targets).1 found isFound).1)
  obtain ⟨found, least⟩ := spec targets
  refine ⟨⟨fun nothing target inside => ?_, fun unmatched => ?_⟩, fun best isBest => ?_,
    fun permuted perm => le_antisymm (fewest perm.symm.subset) (fewest perm.subset)⟩
  · rw [nothing] at least
    exact top_le_iff.mp (least target inside)
  · exact Option.eq_none_iff_forall_ne_some.mpr fun result isFound =>
      (found result isFound).2 (unmatched result (found result isFound).1)
  · rw [Option.mem_def.mp isBest] at least
    obtain ⟨inside, matched⟩ := found best isBest
    refine ⟨inside, matched, ?_, least⟩
    rintro ⟨target, isTarget, fully⟩
    exact le_antisymm (fully ▸ least target isTarget) bot_le

/-- A repository is found under its organization, and not under its host. -/
theorem organization_wins :
    openAfter .ascii "https://github.com/ceph/ceph.git"
        (findBestSecretCandidate .ascii "https://github.com/ceph/ceph.git"
          ["github.com", "ssh://github.com/ceph", "https://github.com/ceph"]) = 1 := by
  rw [← (most_specific_secret_wins .ascii _ "https://github.com/ceph/ceph.git").2.2
    ["https://github.com/ceph", "github.com", "ssh://github.com/ceph"] (by decide)]
  decide +kernel

end Cbs

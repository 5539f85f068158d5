import Mathlib.Data.List.Basic
import Mathlib.Tactic.SplitIfs

/-!
# Regular expressions

Expressions with named groups, matched by backtracking: alternatives are tried from left to right
and repetitions are greedy.  The matcher takes the first of the ways in which an expression can
match at all.
-/

namespace Regex

/-- What groups have captured, the last capture first. -/
abbrev Captures : Type :=
  List (String × List Char)

inductive Expr where
  | empty
  | char (test : Char → Bool)
  | seq (first second : Expr)
  | alt (first second : Expr)
  /-- Match an expression as often as possible. -/
  | star (body : Expr)
  | group (name : String) (body : Expr)
  /-- Match the end of the text, or the position before a newline that ends it. -/
  | atEnd

/-- Match a body as often as it takes something, at most as often as there is fuel. -/
def iterate (body : List Char × Captures → List (List Char × Captures)) :
    Nat → List Char × Captures → List (List Char × Captures)
  | 0, position => [position]
  | fuel + 1, position =>
    ((body position).filter fun next => next.1.length < position.1.length).flatMap
      (iterate body fuel) ++ [position]

namespace Expr

/-- Every way to match, in the order in which they are tried, by the text that follows and the
captures. -/
def run : Expr → List Char × Captures → List (List Char × Captures)
  | empty, position => [position]
  | char test, (text, captures) =>
    match text with
    | [] => []
    | first :: rest => if test first then [(rest, captures)] else []
  | seq first second, position => (first.run position).flatMap second.run
  | alt first second, position => first.run position ++ second.run position
  | star body, position => iterate body.run position.1.length position
  | group name body, position =>
    (body.run position).map fun next =>
      (next.1, (name, position.1.take (position.1.length - next.1.length)) :: next.2)
  | atEnd, position => if position.1 = [] ∨ position.1 = ['\n'] then [position] else []

def matchStart (expr : Expr) (text : String) : Option Captures :=
  ((expr.run (text.toList, [])).head?).map Prod.snd

/-- Replace every match by what its captures say, from the left.  The expression never matches the
empty text. -/
def subFrom (expr : Expr) (replacement : Captures → List Char) : Nat → List Char → List Char
  | 0, text => text
  | fuel + 1, text =>
    match (expr.run (text, [])).head? with
    | some (rest, captures) => replacement captures ++ expr.subFrom replacement fuel rest
    | none =>
      match text with
      | [] => []
      | first :: rest => first :: expr.subFrom replacement fuel rest

def sub (expr : Expr) (replacement : Captures → List Char) (text : String) : String :=
  String.ofList (expr.subFrom replacement text.toList.length text.toList)

def lit (wanted : Char) : Expr :=
  char fun found => found = wanted

def word : List Char → Expr
  | [] => empty
  | first :: rest => seq (lit first) (word rest)

def any : Expr :=
  char fun found => found ≠ '\n'

def opt (body : Expr) : Expr :=
  alt body empty

/-- Match an expression as often as possible, at least once. -/
def plus (body : Expr) : Expr :=
  seq body (star body)

end Expr

/-- A body matches several times, each time something. -/
inductive Repeats (body : List Char → List Char → Captures → Prop) :
    List Char → List Char → Captures → Prop
  | done (rest : List Char) : Repeats body [] rest []
  | more {taken others rest : List Char} {captured later : Captures}
      (once : body taken (others ++ rest) captured) (consumes : taken ≠ [])
      (again : Repeats body others rest later) :
      Repeats body (taken ++ others) rest (later ++ captured)

namespace Expr

/-- The expression matches a text that is followed by another one, and captures something. -/
def Matches : Expr → List Char → List Char → Captures → Prop
  | empty, taken, _, captured => taken = [] ∧ captured = []
  | char test, taken, _, captured => (∃ only, test only = true ∧ taken = [only]) ∧ captured = []
  | seq first second, taken, rest, captured =>
    ∃ left right earlier later, taken = left ++ right ∧ captured = later ++ earlier ∧
      first.Matches left (right ++ rest) earlier ∧ second.Matches right rest later
  | alt first second, taken, rest, captured =>
    first.Matches taken rest captured ∨ second.Matches taken rest captured
  | star body, taken, rest, captured => Repeats body.Matches taken rest captured
  | group name body, taken, rest, captured =>
    ∃ inner, body.Matches taken rest inner ∧ captured = (name, taken) :: inner
  | atEnd, taken, rest, captured => taken = [] ∧ captured = [] ∧ (rest = [] ∨ rest = ['\n'])

end Expr

theorem mem_iterate {body : List Char × Captures → List (List Char × Captures)}
    {relation : List Char → List Char → Captures → Prop}
    (sound : ∀ text captures rest after, (rest, after) ∈ body (text, captures) ↔
      ∃ taken captured, text = taken ++ rest ∧ after = captured ++ captures ∧
        relation taken rest captured)
    {fuel : Nat} {text : List Char} (enough : text.length ≤ fuel) (captures : Captures)
    (rest : List Char) (after : Captures) :
    (rest, after) ∈ iterate body fuel (text, captures) ↔
      ∃ taken captured, text = taken ++ rest ∧ after = captured ++ captures ∧
        Repeats relation taken rest captured := by
  induction fuel generalizing text captures with
  | zero =>
    obtain rfl : text = [] := List.length_eq_zero_iff.mp (Nat.le_zero.mp enough)
    constructor
    · intro inside
      obtain ⟨rfl, rfl⟩ : rest = [] ∧ after = captures := by simpa [iterate] using inside
      exact ⟨[], [], rfl, rfl, .done _⟩
    · rintro ⟨taken, captured, isText, rfl, repeats⟩
      obtain ⟨takesNothing, isRest⟩ := List.append_eq_nil_iff.mp isText.symm
      cases repeats with
      | done => simp [iterate, isRest]
      | more _ consumes => exact absurd (List.append_eq_nil_iff.mp takesNothing).1 consumes
  | succ fuel ih =>
    simp only [iterate, List.mem_append, List.mem_flatMap, List.mem_filter, List.mem_singleton,
      decide_eq_true_eq, Prod.exists]
    constructor
    · rintro (⟨middle, between, ⟨once, shorter⟩, again⟩ | stopped)
      · obtain ⟨taken, captured, rfl, rfl, matched⟩ := (sound ..).mp once
        have fits : middle.length ≤ fuel := by
          simp only [List.length_append] at enough shorter
          omega
        obtain ⟨others, later, rfl, rfl, repeats⟩ := (ih fits _).mp again
        have consumes : taken ≠ [] := by
          rintro rfl
          simp at shorter
        exact ⟨taken ++ others, later ++ captured, by simp, by simp,
          .more matched consumes repeats⟩
      · obtain ⟨rfl, rfl⟩ : rest = text ∧ after = captures := by simpa using stopped
        exact ⟨[], [], rfl, rfl, .done _⟩
    · rintro ⟨taken, captured, rfl, rfl, repeats⟩
      cases repeats with
      | done => exact Or.inr rfl
      | @more once others _ early later matched consumes again =>
        have positive := List.length_pos_iff.mpr consumes
        refine Or.inl ⟨others ++ rest, early ++ captures, ⟨?_, ?_⟩, ?_⟩
        · exact (sound ..).mpr ⟨once, early, by simp, rfl, matched⟩
        · simp only [List.length_append]
          omega
        · refine (ih ?_ _).mpr ⟨others, later, rfl, by simp, again⟩
          simp only [List.length_append] at enough ⊢
          omega

/-- The matcher tries exactly the ways in which an expression matches. -/
theorem mem_run (expr : Expr) (text : List Char) (captures : Captures) (rest : List Char)
    (after : Captures) :
    (rest, after) ∈ expr.run (text, captures) ↔
      ∃ taken captured, text = taken ++ rest ∧ after = captured ++ captures ∧
        expr.Matches taken rest captured := by
  induction expr generalizing text captures rest after with
  | empty =>
    constructor
    · intro inside
      obtain ⟨rfl, rfl⟩ : rest = text ∧ after = captures := by simpa [Expr.run] using inside
      exact ⟨[], [], rfl, rfl, rfl, rfl⟩
    · rintro ⟨taken, captured, rfl, rfl, rfl, rfl⟩
      simp [Expr.run]
  | char test =>
    cases text with
    | nil =>
      simp only [Expr.run, List.not_mem_nil, false_iff]
      rintro ⟨taken, captured, isText, -, ⟨only, -, rfl⟩, -⟩
      simp at isText
    | cons first others =>
      simp only [Expr.run]
      constructor
      · intro inside
        split_ifs at inside with passes
        · obtain ⟨rfl, rfl⟩ : rest = others ∧ after = captures := by simpa using inside
          exact ⟨[first], [], rfl, rfl, ⟨first, passes, rfl⟩, rfl⟩
        · simp at inside
      · rintro ⟨taken, captured, isText, rfl, ⟨only, passes, rfl⟩, rfl⟩
        obtain ⟨rfl, rfl⟩ : first = only ∧ others = rest := by simpa using isText
        simp [passes]
  | seq first second ihFirst ihSecond =>
    simp only [Expr.run, List.mem_flatMap, Prod.exists]
    constructor
    · rintro ⟨middle, between, isFirst, isSecond⟩
      obtain ⟨left, earlier, rfl, rfl, matchesFirst⟩ := (ihFirst ..).mp isFirst
      obtain ⟨right, later, rfl, rfl, matchesSecond⟩ := (ihSecond ..).mp isSecond
      exact ⟨left ++ right, later ++ earlier, by simp, by simp, left, right, earlier, later, rfl,
        rfl, matchesFirst, matchesSecond⟩
    · rintro ⟨_, _, rfl, rfl, left, right, earlier, later, rfl, rfl, matchesFirst, matchesSecond⟩
      refine ⟨right ++ rest, earlier ++ captures, (ihFirst ..).mpr ?_, (ihSecond ..).mpr ?_⟩
      · exact ⟨left, earlier, by simp, rfl, matchesFirst⟩
      · exact ⟨right, later, rfl, by simp, matchesSecond⟩
  | alt first second ihFirst ihSecond =>
    simp only [Expr.run, List.mem_append, ihFirst, ihSecond, Expr.Matches]
    constructor
    · rintro (⟨taken, captured, isText, isAfter, matched⟩ |
        ⟨taken, captured, isText, isAfter, matched⟩)
      · exact ⟨taken, captured, isText, isAfter, Or.inl matched⟩
      · exact ⟨taken, captured, isText, isAfter, Or.inr matched⟩
    · rintro ⟨taken, captured, isText, isAfter, matched | matched⟩
      · exact Or.inl ⟨taken, captured, isText, isAfter, matched⟩
      · exact Or.inr ⟨taken, captured, isText, isAfter, matched⟩
  | star body ih => exact mem_iterate ih (Nat.le_refl _) captures rest after
  | group name body ih =>
    simp only [Expr.run, List.mem_map, Prod.mk.injEq, Prod.exists]
    constructor
    · rintro ⟨_, inner, inside, rfl, rfl⟩
      obtain ⟨taken, captured, rfl, rfl, matched⟩ := (ih ..).mp inside
      exact ⟨taken, (name, taken) :: captured, rfl, by simp, captured, matched, rfl⟩
    · rintro ⟨taken, _, rfl, rfl, inner, matched, rfl⟩
      refine ⟨rest, inner ++ captures, (ih ..).mpr ⟨taken, inner, rfl, rfl, matched⟩, rfl, ?_⟩
      simp
  | atEnd =>
    simp only [Expr.run]
    constructor
    · intro inside
      split_ifs at inside with ends
      · obtain ⟨rfl, rfl⟩ : rest = text ∧ after = captures := by simpa using inside
        exact ⟨[], [], rfl, rfl, rfl, rfl, ends⟩
      · simp at inside
    · rintro ⟨taken, captured, rfl, rfl, rfl, rfl, ends⟩
      simp [ends]

namespace Expr

theorem matches_of_matchStart {expr : Expr} {text : String} {captured : Captures}
    (found : expr.matchStart text = some captured) :
    ∃ taken rest, text.toList = taken ++ rest ∧ expr.Matches taken rest captured := by
  obtain ⟨⟨rest, _⟩, first, rfl⟩ := Option.map_eq_some_iff.mp found
  obtain ⟨taken, captured, isText, isAfter, matched⟩ :=
    (mem_run ..).mp (List.mem_of_head? first)
  rw [List.append_nil] at isAfter
  exact ⟨taken, rest, isText, isAfter ▸ matched⟩

theorem exists_matchStart {expr : Expr} {text : String} {taken rest : List Char}
    {captured : Captures} (isText : text.toList = taken ++ rest)
    (matched : expr.Matches taken rest captured) : ∃ found, expr.matchStart text = some found := by
  have inside : (rest, captured) ∈ expr.run (text.toList, []) :=
    (mem_run ..).mpr ⟨taken, captured, isText, by simp, matched⟩
  cases isRun : expr.run (text.toList, []) with
  | nil => simp [isRun] at inside
  | cons first others => exact ⟨first.2, by simp [matchStart, isRun]⟩

variable {taken rest : List Char} {captured : Captures} {test : Char → Bool}

theorem matches_lit {wanted : Char} :
    (lit wanted).Matches taken rest captured ↔ taken = [wanted] ∧ captured = [] := by
  simp [lit, Matches]

theorem matches_opt {body : Expr} :
    (opt body).Matches taken rest captured ↔
      body.Matches taken rest captured ∨ taken = [] ∧ captured = [] :=
  Iff.rfl

theorem matches_star_char :
    (star (char test)).Matches taken rest captured ↔
      (∀ only ∈ taken, test only = true) ∧ captured = [] := by
  constructor
  · intro repeats
    induction (repeats : Repeats _ taken rest captured) with
    | done => simp
    | more once _ _ ih =>
      obtain ⟨⟨only, passes, rfl⟩, rfl⟩ := once
      obtain ⟨all, rfl⟩ := ih
      exact ⟨by simpa using ⟨passes, all⟩, rfl⟩
  · rintro ⟨all, rfl⟩
    induction taken with
    | nil => exact Repeats.done rest
    | cons first others ih =>
      have once : (char test).Matches [first] (others ++ rest) [] :=
        ⟨⟨first, all first (by simp), rfl⟩, rfl⟩
      exact Repeats.more once (by simp) (ih fun only inside => all only (by simp [inside]))

theorem matches_plus_char :
    (plus (char test)).Matches taken rest captured ↔
      taken ≠ [] ∧ (∀ only ∈ taken, test only = true) ∧ captured = [] := by
  simp only [plus, Matches]
  constructor
  · rintro ⟨_, right, _, later, rfl, rfl, ⟨⟨only, passes, rfl⟩, rfl⟩, repeats⟩
    obtain ⟨all, rfl⟩ := matches_star_char.mp repeats
    exact ⟨by simp, by simpa using ⟨passes, all⟩, rfl⟩
  · rintro ⟨some, all, rfl⟩
    obtain ⟨first, others, rfl⟩ := List.exists_cons_of_ne_nil some
    refine ⟨[first], others, [], [], rfl, rfl, ⟨⟨first, all first (by simp), rfl⟩, rfl⟩, ?_⟩
    exact matches_star_char.mpr ⟨fun only inside => all only (by simp [inside]), rfl⟩

end Expr

/-- The classes `\w` and `\d`.  Which characters of other scripts they have does not matter. -/
structure Classes where
  isWord : Char → Bool
  isDigit : Char → Bool
  word_of_digit : ∀ only, isDigit only = true → isWord only = true
  plain : ['.', '-', '/', ':', '\n'].any isWord = false
  letter : isDigit 'v' = false
  word_letter : isWord 'v' = true

def Classes.ascii : Classes where
  isWord only := only.isAlphanum || only = '_'
  isDigit := Char.isDigit
  word_of_digit := by
    intro only digit
    simp [Char.isAlphanum, digit]
  plain := rfl
  letter := rfl
  word_letter := rfl

theorem Classes.not_word (classes : Classes) {only : Char}
    (listed : only ∈ ['.', '-', '/', ':', '\n']) : classes.isWord only = false :=
  Bool.eq_false_iff.mpr (List.any_eq_false.mp classes.plain only listed)

theorem Classes.not_digit (classes : Classes) {only : Char}
    (listed : only ∈ ['.', '-', '/', ':', '\n']) : classes.isDigit only = false :=
  Bool.eq_false_iff.mpr fun digit =>
    Bool.eq_false_iff.mp (classes.not_word listed) (classes.word_of_digit only digit)

/-- The text does not go on with a character of the class. -/
def Stops (test : Char → Bool) (text : List Char) : Prop :=
  ∀ next ∈ text.head?, test next = false

/-- A run of characters of a class ends where the text does not go on with one. -/
theorem append_inj_of_stops {test : Char → Bool} {left right rest others : List Char}
    (allLeft : ∀ only ∈ left, test only = true) (allRight : ∀ only ∈ right, test only = true)
    (stopsRest : Stops test rest) (stopsOthers : Stops test others)
    (same : left ++ rest = right ++ others) : left = right ∧ rest = others := by
  induction left generalizing right with
  | nil =>
    cases right with
    | nil => exact ⟨rfl, same⟩
    | cons second right =>
      have goesOn : rest.head? = some second := by
        rw [List.nil_append] at same
        simp [same]
      have passes := allRight second (by simp)
      rw [stopsRest second goesOn] at passes
      cases passes
  | cons first left ih =>
    cases right with
    | nil =>
      have goesOn : others.head? = some first := by
        rw [List.nil_append] at same
        simp [← same]
      have passes := allLeft first (by simp)
      rw [stopsOthers first goesOn] at passes
      cases passes
    | cons second right =>
      rw [List.cons_append, List.cons_append] at same
      obtain ⟨rfl, sameTail⟩ := List.cons.inj same
      obtain ⟨sameRun, sameRest⟩ := ih (fun only inside => allLeft only (by simp [inside]))
        (fun only inside => allRight only (by simp [inside])) sameTail
      exact ⟨by rw [sameRun], sameRest⟩

end Regex

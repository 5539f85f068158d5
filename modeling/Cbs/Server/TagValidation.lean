import Cbs.Server.TagFormat
import Mathlib.Data.List.Infix

/-!
# Validation of tag formats

A format is checked when a periodic task is stored, and expanded when the task is triggered.  The
check accepts a pair of braces with nothing in between and a brace that is never closed.
-/

namespace Cbs

def knownPlaceholders : List String :=
  ["Y", "m", "d", "H", "M", "S", "DT", "version", "base_tag", "channel", "user", "arch", "distro",
    "os_version"]

/-- A name that is not known; an empty one is skipped. -/
def reportName (name : List Char) : List String :=
  if name ≠ [] ∧ String.ofList name ∉ knownPlaceholders then [String.ofList name] else []

/-- The unknown names in the rest of a format.  Inside braces, the characters read so far are kept
in reverse; a name ends at the closing brace or at the end of the format. -/
def unknownFrom : Option (List Char) → List Char → List String
  | none, [] => []
  | some name, [] => reportName name.reverse
  | none, char :: rest =>
    if char = '{' then unknownFrom (some []) rest else unknownFrom none rest
  | some name, char :: rest =>
    if char = '}' then reportName name.reverse ++ unknownFrom none rest
    else unknownFrom (some (char :: name)) rest

variable (format : String)

/-- All names in braces are known; the error lists those that are not. -/
def validateTagFormat : Except (List String) Unit :=
  let unknown := unknownFrom none format.toList
  if unknown = [] then .ok () else .error unknown

/-- The names that are followed by a closing brace, in the rest of a format. -/
def closedNames : Option (List Char) → List Char → List (List Char)
  | _, [] => []
  | none, char :: rest =>
    if char = '{' then closedNames (some []) rest else closedNames none rest
  | some name, char :: rest =>
    if char = '}' then name.reverse :: closedNames none rest
    else closedNames (some (char :: name)) rest

/-- The rest of a format ends in a brace that is not closed. -/
def openName : Option (List Char) → List Char → Option (List Char)
  | state, [] => state.map List.reverse
  | none, char :: rest =>
    if char = '{' then openName (some []) rest else openName none rest
  | some name, char :: rest =>
    if char = '}' then openName none rest else openName (some (char :: name)) rest

def placeholders : List String :=
  (closedNames none format.toList).map String.ofList

/-- Nothing stands between a pair of braces of the format. -/
def HasEmptyBraces : Prop :=
  ['{', '}'] <:+: format.toList

def HasOpenBrace : Prop :=
  ∃ before after, format.toList = before ++ '{' :: after ∧ '}' ∉ after

instance : Decidable (HasEmptyBraces format) :=
  inferInstanceAs (Decidable (_ <:+: _))

theorem resolvePlaceholder_isSome (name : String) (descriptor : BuildDescriptor) (now : DateTime) :
    (resolvePlaceholder name descriptor now).isSome = true ↔ name ∈ knownPlaceholders := by
  unfold resolvePlaceholder knownPlaceholders
  split <;> simp_all

variable (state : Option (List Char))

theorem unknownFrom_eq_nil (rest : List Char) :
    unknownFrom state rest = [] ↔
      ∀ name ∈ closedNames state rest ++ (openName state rest).toList,
        name = [] ∨ String.ofList name ∈ knownPlaceholders := by
  have report : ∀ name, reportName name = [] ↔
      name = [] ∨ String.ofList name ∈ knownPlaceholders := by
    intro name
    unfold reportName
    split_ifs with unknown
    · simpa using unknown
    · simp only [true_iff]
      tauto
  fun_induction unknownFrom state rest with
  | case1 => simp [closedNames, openName]
  | case2 name => simp [closedNames, openName, report]
  | case3 rest ih => simpa [closedNames, openName] using ih
  | case4 char rest other ih => simpa [closedNames, openName, other] using ih
  | case5 name rest ih =>
    simp only [List.append_eq_nil_iff, report, ih, closedNames, openName, if_true,
      List.cons_append, List.forall_mem_cons]
  | case6 name char rest other ih => simpa [closedNames, openName, other] using ih

/-- A brace stays in the tag exactly when one is not closed or a name has no value. -/
theorem brace_interpolateFrom (resolve : String → Option String) (state : Option (List Char))
    (rest : List Char)
    (plain : ∀ name ∈ closedNames state rest, ∀ value, resolve (String.ofList name) = some value →
      '{' ∉ value.toList) :
    '{' ∉ interpolateFrom resolve state rest ↔
      openName state rest = none ∧
        ∀ name ∈ closedNames state rest, (resolve (String.ofList name)).isSome = true := by
  fun_induction interpolateFrom resolve state rest with
  | case1 => simp [openName, closedNames]
  | case2 name => simp [openName]
  | case3 rest ih =>
    simp only [closedNames, openName, if_true] at plain ⊢
    exact ih plain
  | case4 char rest other ih =>
    simp only [closedNames, openName, if_neg other] at plain ⊢
    rw [← ih plain, List.mem_cons, not_or]
    exact and_iff_right (Ne.symm other)
  | case5 name rest ih =>
    simp only [closedNames, openName, if_true, List.forall_mem_cons] at plain ⊢
    have expanded : '{' ∉ expandPlaceholder resolve name.reverse ↔
        (resolve (String.ofList name.reverse)).isSome = true := by
      unfold expandPlaceholder
      cases value : resolve (String.ofList name.reverse) with
      | none => simp
      | some value' => simpa using plain.1 value' value
    rw [List.mem_append, not_or, expanded, ih plain.2]
    tauto
  | case6 name char rest other ih =>
    simp only [closedNames, openName, if_neg other] at plain ⊢
    exact ih plain

theorem exists_openBrace_cons (char : Char) (rest : List Char) :
    (∃ before after, char :: rest = before ++ '{' :: after ∧ '}' ∉ after) ↔
      (char = '{' ∧ '}' ∉ rest) ∨
        ∃ before after, rest = before ++ '{' :: after ∧ '}' ∉ after := by
  constructor
  · rintro ⟨before, after, same, unclosed⟩
    cases before with
    | nil =>
      obtain ⟨rfl, rfl⟩ := List.cons.inj same
      exact Or.inl ⟨rfl, unclosed⟩
    | cons first before =>
      obtain ⟨rfl, rfl⟩ := List.cons.inj same
      exact Or.inr ⟨before, after, rfl, unclosed⟩
  · rintro (⟨rfl, unclosed⟩ | ⟨before, after, rfl, unclosed⟩)
    · exact ⟨[], rest, rfl, unclosed⟩
    · exact ⟨char :: before, after, rfl, unclosed⟩

/-- A name is open at the end exactly when no brace is closed behind the last opening one. -/
theorem openName_isSome (rest : List Char) :
    (openName state rest).isSome = true ↔
      (state.isSome = true ∧ '}' ∉ rest) ∨
        ∃ before after, rest = before ++ '{' :: after ∧ '}' ∉ after := by
  fun_induction openName state rest with
  | case1 state => simp
  | case2 rest ih =>
    rw [ih, exists_openBrace_cons]
    simp
  | case3 char rest other ih =>
    rw [ih, exists_openBrace_cons]
    simp [other]
  | case4 name rest ih =>
    rw [ih, exists_openBrace_cons]
    simp
  | case5 name char rest other ih =>
    rw [ih, exists_openBrace_cons, List.mem_cons]
    -- an opening brace inside a name leaves the name open as well
    simp only [Option.isSome_some, true_and, Ne.symm other, false_or]
    tauto

variable {rest : List Char}

theorem emptyBraces_cons {char : Char} :
    ['{', '}'] <:+: char :: rest ↔
      (char = '{' ∧ ['}'] <+: rest) ∨ ['{', '}'] <:+: rest := by
  rw [List.infix_cons_iff, List.cons_prefix_cons, eq_comm]

theorem emptyBraces_of_mem (rest : List Char) (inside : [] ∈ closedNames state rest) :
    (state = some [] ∧ ['}'] <+: rest) ∨ ['{', '}'] <:+: rest := by
  fun_induction closedNames state rest with
  | case1 state => simp at inside
  | case2 rest ih =>
    rw [emptyBraces_cons]
    rcases ih inside with ⟨-, closes⟩ | later
    · exact Or.inr (Or.inl ⟨rfl, closes⟩)
    · exact Or.inr (Or.inr later)
  | case3 char rest other ih =>
    rw [emptyBraces_cons]
    rcases ih inside with ⟨none, -⟩ | later
    · cases none
    · exact Or.inr (Or.inr later)
  | case4 name rest ih =>
    rw [emptyBraces_cons]
    rcases List.mem_cons.mp inside with isEmpty | inside
    · rw [List.reverse_eq_nil_iff.mp isEmpty.symm]
      exact Or.inl ⟨rfl, rest, rfl⟩
    · rcases ih inside with ⟨none, -⟩ | later
      · cases none
      · exact Or.inr (Or.inr later)
  | case5 name char rest other ih =>
    rw [emptyBraces_cons]
    rcases ih inside with ⟨full, -⟩ | later
    · cases full
    · exact Or.inr (Or.inr later)

variable {name : List Char}

theorem closedNames_close (closes : ['}'] <+: rest) :
    name.reverse ∈ closedNames (some name) rest := by
  obtain ⟨after, rfl⟩ := closes
  simp [closedNames]

/-- Braces with nothing in between are an empty name, or part of a longer one. -/
theorem mem_of_emptyBraces (rest : List Char) (inside : ['{', '}'] <:+: rest) :
    ∃ name ∈ closedNames state rest, name = [] ∨ '{' ∈ name := by
  fun_induction closedNames state rest with
  | case1 state => simp at inside
  | case2 rest ih =>
    rcases emptyBraces_cons.mp inside with ⟨-, closes⟩ | later
    · exact ⟨[], closedNames_close closes, Or.inl rfl⟩
    · exact ih later
  | case3 char rest other ih =>
    rcases emptyBraces_cons.mp inside with ⟨opens, -⟩ | later
    · exact absurd opens other
    · exact ih later
  | case4 name rest ih =>
    rcases emptyBraces_cons.mp inside with ⟨opens, -⟩ | later
    · cases opens
    · obtain ⟨found, within, shape⟩ := ih later
      exact ⟨found, List.mem_cons_of_mem _ within, shape⟩
  | case5 name char rest other ih =>
    rcases emptyBraces_cons.mp inside with ⟨rfl, closes⟩ | later
    · exact ⟨_, closedNames_close closes, Or.inr (by simp)⟩
    · exact ih later

theorem brace_notMem_known (known : String.ofList name ∈ knownPlaceholders) :
    name ≠ [] ∧ '{' ∉ name := by
  have plain : ∀ text ∈ knownPlaceholders, text.toList ≠ [] ∧ '{' ∉ text.toList := by decide
  simpa using plain _ known

theorem validateTagFormat_eq_ok {format : String} :
    validateTagFormat format = .ok () ↔ unknownFrom none format.toList = [] := by
  unfold validateTagFormat
  dsimp only
  split_ifs with isEmpty <;> simp [isEmpty]

/-- A tag has no brace left exactly when its format was accepted, has no empty braces and closes all
its braces; the values of its placeholders have no braces. -/
theorem expands_fully_iff {format : String} {descriptor : BuildDescriptor} {now : DateTime}
    (plain : ∀ name ∈ placeholders format, ∀ value,
      resolvePlaceholder name descriptor now = some value → '{' ∉ value.toList) :
    '{' ∉ (interpolateTag format descriptor now).toList ↔
      validateTagFormat format = .ok () ∧ ¬ HasEmptyBraces format ∧ ¬ HasOpenBrace format := by
  have closes : openName none format.toList = none ↔ ¬ HasOpenBrace format := by
    rw [← Option.not_isSome_iff_eq_none, openName_isSome]
    simp [HasOpenBrace]
  rw [interpolateTag, String.toList_ofList, brace_interpolateFrom, validateTagFormat_eq_ok,
    unknownFrom_eq_nil, ← closes]
  · simp only [resolvePlaceholder_isSome]
    constructor
    · rintro ⟨closed, known⟩
      refine ⟨?_, ?_, closed⟩
      · rw [closed]
        simpa using fun name inside => Or.inr (known name inside)
      · intro empty
        obtain ⟨name, inside, shape⟩ := mem_of_emptyBraces none _ empty
        obtain ⟨nonempty, noBrace⟩ := brace_notMem_known (known name inside)
        exact shape.elim nonempty noBrace
    · rintro ⟨accepted, nonempty, closed⟩
      refine ⟨closed, fun name inside => ?_⟩
      rcases accepted name (List.mem_append_left _ inside) with rfl | known
      · rcases emptyBraces_of_mem none _ inside with ⟨none, -⟩ | empty
        · cases none
        · exact absurd empty nonempty
      · exact known
  · intro name inside value resolved
    exact plain _ (List.mem_map_of_mem inside) value resolved

def sampleDescriptor : BuildDescriptor where
  version := "19.2.3"
  channel := some "ces-devel"
  versionType := some .dev
  signedOffBy := ⟨"Alice", "alice@example.com"⟩
  dstImage := ⟨"harbor.example.com/ces-devel/ceph", "v19.2.3-dev.1"⟩
  components := [⟨"ceph", "v19.2.3", some "https://example.com/ceph"⟩]
  build := ⟨"rockylinux", "el9", "rpm", .x86_64⟩

def sampleTime : DateTime :=
  ⟨2026, 3, 18, 14, 30, 45⟩

theorem sample_plain : ∀ name ∈ knownPlaceholders,
    ∀ value ∈ resolvePlaceholder name sampleDescriptor sampleTime, '{' ∉ value.toList := by
  decide +kernel

theorem nightly_expands :
    validateTagFormat "v{version}-nightly.{Y}" = .ok () ∧
      '{' ∉ (interpolateTag "v{version}-nightly.{Y}" sampleDescriptor
        sampleTime).toList := by
  have known : ∀ name ∈ placeholders "v{version}-nightly.{Y}",
      name ∈ knownPlaceholders := by
    decide
  have closes : ¬ HasOpenBrace "v{version}-nightly.{Y}" := by
    intro isOpen
    have := (openName_isSome none _).mpr (Or.inr isOpen)
    exact absurd this (by decide)
  exact ⟨by decide, (expands_fully_iff fun name inside value resolved =>
    sample_plain name (known name inside) value resolved).mpr ⟨by decide, by decide, closes⟩⟩

/-- Empty braces and a brace that is not closed are accepted and stay in the tag. -/
theorem accepted_braces_stay :
    (∀ name ∈ knownPlaceholders,
        ∀ value ∈ resolvePlaceholder name sampleDescriptor sampleTime, '{' ∉ value.toList) ∧
      validateTagFormat "test{}value" = .ok () ∧
      interpolateTag "test{}value" sampleDescriptor sampleTime = "test{}value" ∧
      validateTagFormat "v\x7bversion" = .ok () ∧
      interpolateTag "v\x7bversion" sampleDescriptor sampleTime = "v\x7bversion" :=
  ⟨sample_plain, by decide, by decide, by decide, by decide⟩

end Cbs

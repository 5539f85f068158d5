import Mathlib.Data.List.Basic
import Mathlib.Order.Lattice

/-!
# Recurring events

A server of recurring items looks for the earliest occurrence after the present, waits for it,
serves it, and looks again from the time it has become.  It misses nothing exactly when at most one
occurrence falls into each round.
-/

namespace Recurrence

variable {τ ι : Type} [LinearOrder τ]

structure IsNext (occurs : τ → Prop) (instant next : τ) : Prop where
  later : instant < next
  occurrence : occurs next
  least : ∀ time, instant < time → occurs time → next ≤ time

theorem IsNext.unique {occurs : τ → Prop} {instant first second : τ}
    (isFirst : IsNext occurs instant first) (isSecond : IsNext occurs instant second) :
    first = second :=
  le_antisymm (isFirst.least second isSecond.later isSecond.occurrence)
    (isSecond.least first isFirst.later isFirst.occurrence)

/-- Every occurrence after the start and up to the present was served. -/
def ServedUpTo (occurs : ι → τ → Prop) (start now : τ) (served : List (τ × ι)) : Prop :=
  ∀ item time, start < time → time ≤ now → occurs item time → (time, item) ∈ served

/-- At most one occurrence lies after one instant and not after another. -/
def AtMostOne (occurs : ι → τ → Prop) (now next : τ) : Prop :=
  ∀ item time, occurs item time → now < time → time ≤ next →
    ∀ other later, occurs other later → now < later → later ≤ next → (time, item) = (later, other)

/-- Everything that was served lies in the past. -/
def Past (now : τ) (served : List (τ × ι)) : Prop :=
  ∀ entry ∈ served, entry.1 ≤ now

theorem Past.append {now next time : τ} {item : ι} {served : List (τ × ι)} (past : Past now served)
    (progress : now ≤ next) (reached : time ≤ next) : Past next (served ++ [(time, item)]) :=
  List.forall_mem_append.mpr ⟨fun entry old => (past entry old).trans progress,
    List.forall_mem_singleton.mpr reached⟩

/-- A round that serves one occurrence leaves nothing unserved exactly when that was the only
one. -/
theorem servedUpTo_append_iff {occurs : ι → τ → Prop} {start now next time : τ} {item : ι}
    {served : List (τ × ι)} (started : start ≤ now) (past : Past now served)
    (complete : ServedUpTo occurs start now served) (occurrence : occurs item time)
    (later : now < time) (reached : time ≤ next) :
    ServedUpTo occurs start next (served ++ [(time, item)]) ↔ AtMostOne occurs now next := by
  constructor
  · intro completeAfter
    have isServed : ∀ other instant, occurs other instant → now < instant → instant ≤ next →
        (instant, other) = (time, item) := by
      intro other instant isOccurrence after upTo
      have inside := completeAfter other instant (started.trans_lt after) upTo isOccurrence
      rcases List.mem_append.mp inside with old | new
      · exact absurd (past _ old) (not_le.mpr after)
      · exact List.mem_singleton.mp new
    intro first firstTime firstOccurs firstAfter firstUpTo second secondTime secondOccurs
      secondAfter secondUpTo
    rw [isServed first firstTime firstOccurs firstAfter firstUpTo,
      isServed second secondTime secondOccurs secondAfter secondUpTo]
  · intro single other instant afterStart upTo isOccurrence
    rcases le_or_gt instant now with before | after
    · exact List.mem_append_left _ (complete other instant afterStart before isOccurrence)
    · rw [single other instant isOccurrence after upTo item time occurrence later reached]
      exact List.mem_append_right _ (List.mem_singleton.mpr rfl)

/-- Nothing before the earliest occurrence to come was missed exactly when everything up to the
present was served. -/
theorem servedBefore_iff {occurs : ι → τ → Prop} {start now target : τ} {served : List (τ × ι)}
    (later : now < target) (earliest : ∀ item time, now < time → occurs item time → target ≤ time) :
    (∀ item time, start < time → time < target → occurs item time → (time, item) ∈ served) ↔
      ServedUpTo occurs start now served := by
  constructor
  · intro before item time afterStart upTo isOccurrence
    exact before item time afterStart (upTo.trans_lt later) isOccurrence
  · intro complete item time afterStart before isOccurrence
    rcases le_or_gt time now with upTo | after
    · exact complete item time afterStart upTo isOccurrence
    · exact absurd (earliest item time after isOccurrence) (not_le.mpr before)

end Recurrence

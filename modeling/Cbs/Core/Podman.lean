import Cbs.Core.Basic
import Cbs.Library.Text
import Mathlib.Data.List.Basic

/-!
# Containers on a host

A call of `podman_run` that times out or is cancelled stops the container that the file for its id
names, and an empty name stands for every container.
-/

namespace Cbs

def hexDigits : List Char :=
  "0123456789abcdef".toList

structure ContainerId where
  digits : List Char
  nonempty : digits ≠ []
  hexadecimal : ∀ digit ∈ digits, digit ∈ hexDigits
  deriving DecidableEq

variable (container : ContainerId)

def ContainerId.text : String :=
  String.ofList container.digits

def podmanStopCmd (name : String) : List String :=
  ["podman", "stop", "--time", "1", if name = "" then "--all" else name]

/-- The containers that a stop command leaves running. -/
def remaining (cmd : List String) (running : List ContainerId) : List ContainerId :=
  running.filter fun container =>
    cmd.getLast? ≠ some "--all" ∧ cmd.getLast? ≠ some container.text

/-- The moment at which a call of `podman_run` times out or is cancelled. -/
structure Interruption where
  /-- Running containers that something else started. -/
  others : List ContainerId
  /-- The container of the call, once podman has created it and written its id. -/
  created : Option ContainerId
  /-- The file for the id, made before podman starts, is still there. -/
  cidfileExists : Bool
  own : ∀ container ∈ created, container ∉ others

namespace Interruption

variable (moment : Interruption)

def cidfileText : String :=
  (moment.created.map ContainerId.text).getD ""

/-- The stop commands that the call issues before it raises. -/
def stopCmds : List (List String) :=
  if moment.cidfileExists then [podmanStopCmd (Text.strip moment.cidfileText)] else []

/-- The call names the container it started, if any, and stops no other. -/
def StopsOwn : Prop :=
  moment.stopCmds = (moment.created.map fun container => podmanStopCmd container.text).toList ∧
    ∀ cmd ∈ moment.stopCmds, remaining cmd moment.others = moment.others

instance : Decidable moment.StopsOwn :=
  inferInstanceAs (Decidable (_ ∧ _))

end Interruption

theorem ContainerId.strip_text : Text.strip container.text = container.text := by
  have solid : ∀ digit ∈ container.digits, digit.isWhitespace = false := by
    intro digit inside
    have all : hexDigits.all (! ·.isWhitespace) = true := rfl
    simpa using List.all_eq_true.mp all digit (container.hexadecimal digit inside)
  exact Text.strip_ofList solid

theorem ContainerId.text_ne (text : String)
    (other : ∃ letter ∈ text.toList, letter ∉ hexDigits) : container.text ≠ text := by
  rintro rfl
  obtain ⟨letter, inside, foreign⟩ := other
  rw [ContainerId.text, String.toList_ofList] at inside
  exact foreign (container.hexadecimal letter inside)

theorem ContainerId.text_ne_empty : container.text ≠ "" := by
  intro empty
  have digits := congrArg String.toList empty
  rw [ContainerId.text, String.toList_ofList] at digits
  exact container.nonempty digits

/-- An interrupted call stops its own container only, exactly if the file for the id is there when
and only when podman has created the container. -/
theorem stopsOwn_iff (moment : Interruption) :
    moment.StopsOwn ↔ moment.cidfileExists = moment.created.isSome := by
  obtain ⟨others, created, cidfileExists, own⟩ := moment
  unfold Interruption.StopsOwn Interruption.stopCmds Interruption.cidfileText
  cases created with
  | none => cases cidfileExists <;> simp
  | some container =>
    cases cidfileExists with
    | false => simp
    | true =>
      have isName : podmanStopCmd container.text =
          ["podman", "stop", "--time", "1", container.text] := by
        rw [podmanStopCmd, if_neg container.text_ne_empty]
      have apart : ∀ other ∈ others, container.text ≠ other.text := by
        intro other inside same
        have digits : container.digits = other.digits := String.ofList_injective same
        exact own container rfl (by rwa [show container = other from by
          cases container; cases other; cases digits; rfl])
      simp only [if_true, Option.map_some, Option.getD_some, container.strip_text,
        Option.toList_some, Option.isSome_some, iff_true, List.mem_singleton, forall_eq, true_and]
      rw [remaining, List.filter_eq_self]
      intro other inside
      have named := container.text_ne "--all" ⟨'-', by decide, by decide⟩
      simp [isName, named, apart other inside]

/-- Interrupted before podman wrote the id, a call stops a container of another build. -/
theorem early_interruption_stops_all :
    let bystander : ContainerId := ⟨"7d".toList, by decide,
      fun _ inside => List.Sublist.mem inside (List.isSublist_iff_sublist.mp rfl)⟩
    let moment : Interruption := ⟨[bystander], none, true, by decide⟩
    moment.stopCmds = [["podman", "stop", "--time", "1", "--all"]] ∧
      (∀ cmd ∈ moment.stopCmds, remaining cmd moment.others = []) ∧ ¬ moment.StopsOwn := by
  decide

end Cbs

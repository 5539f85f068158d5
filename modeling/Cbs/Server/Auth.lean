import Mathlib.Data.List.Basic
import Mathlib.Tactic.SplitIfs

/-!
# Authenticated users

The caller of a REST request with its effective capabilities, and the error responses.
-/

namespace Cbs

abbrev Cap : Type := String

structure AuthUser where
  email : String
  name : String
  caps : List Cap
  isRobot : Bool
  deriving DecidableEq

/-- The user has a capability, by itself or through the wildcard. -/
def AuthUser.hasCap (user : AuthUser) (cap : Cap) : Bool :=
  user.caps.any fun held => held = "*" || held = cap

def robotForbiddenCaps : List Cap :=
  ["*", "permissions:manage", "robots:manage", "apikeys:create:own"]

def firstRobotForbiddenCap (caps : List Cap) : Option Cap :=
  caps.find? (· ∈ robotForbiddenCaps)

inductive StatusCode where
  | badRequest
  | unauthorized
  | forbidden
  | notFound
  | conflict
  | internalServerError
  deriving DecidableEq

structure AuthError where
  status : StatusCode
  detail : String
  deriving DecidableEq

def requireCap (user : AuthUser) (cap : Cap) : Except AuthError Unit :=
  if user.hasCap cap then .ok ()
  else .error ⟨.forbidden, "missing required capability: " ++ cap⟩

variable {user : AuthUser} {cap : Cap}

theorem requireCap_eq_ok : requireCap user cap = .ok () ↔ user.hasCap cap = true := by
  unfold requireCap
  split_ifs with held <;> simp [held]

theorem not_hasCap_of_requireCap {reason : AuthError}
    (refused : requireCap user cap = .error reason) : ¬ user.hasCap cap = true := by
  rw [← requireCap_eq_ok, refused]
  simp

end Cbs

import Mathlib.Data.List.Basic

/-! Package `db`: the credentials a rotation moves from current to new, and the
Go values every layer hands back (an `error`, or a panic). -/
namespace PasswordRotation

instance instDecidableEqExcept {ε α : Type} [DecidableEq ε] [DecidableEq α] : DecidableEq (Except ε α)
  | .error a, .error b => decidable_of_iff (a = b) (by simp)
  | .ok a, .ok b => decidable_of_iff (a = b) (by simp)
  | .error _, .ok _ => isFalse nofun
  | .ok _, .error _ => isFalse nofun

inductive Error where
  | aws (code message : String)
  | msg (text : String)
  deriving DecidableEq, Repr

def Error.code : Error → Option String
  | .aws code _ => some code
  | .msg _ => none

/-- How a Go call ends: it returns an `error` (`none` is nil), or it panics. -/
inductive Outcome where
  | returned (err : Option Error)
  | panicked
  deriving DecidableEq, Repr

structure Credentials where
  username : String
  hostname : String
  password : String
  deriving DecidableEq, Repr

structure NewPassword where
  current : Credentials
  new : Credentials
  deriving DecidableEq, Repr

def NewPassword.swap (creds : NewPassword) : NewPassword :=
  ⟨creds.new, creds.current⟩

@[simp] theorem NewPassword.swap_swap (creds : NewPassword) : creds.swap.swap = creds := rfl

end PasswordRotation

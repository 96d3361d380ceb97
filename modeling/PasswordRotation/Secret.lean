import PasswordRotation.Json
import PasswordRotation.Mysql.Client

/-! `SecretSetter`, the user's part of a rotation, and `RandomPassword`, the one used
when none is given. A secret value is a `map[string]string`. -/
namespace PasswordRotation

open Json

/-- `SecretSetter`: `Init` and `Handler` on an event, `Rotate` of a secret value (Go
changes the map it is given; here it returns the changed map, or the error), and
`Credentials`, the username and password a secret value stands for. -/
structure SecretSetter where
  init : StrMap → Option Error
  handler : StrMap → Option Error
  rotate : StrMap → Except Error StrMap
  credentials : StrMap → String × String

def chars : List Char :=
  "ABCDEFGHIJKLMNOPQRSTUVWXYZabcdefghijklmnopqrstuvwxyz0123456789!@#$%^&*()-".toList

/-- The password `RandomPassword.Rotate` makes, `draw i` being what the `i`-th call of
`rand.Intn(len(chars))` returned. -/
def RandomPassword.newPassword (draw : Nat → Fin chars.length) : String :=
  ⟨(List.range 20).map fun i => chars.get (draw i)⟩

def RandomPassword (draw : Nat → Fin chars.length) : SecretSetter where
  init _ := none
  handler _ := some (.msg "RandomPassword does not support user-invoked password rotation")
  rotate secret := .ok (secret.insert "password" (RandomPassword.newPassword draw))
  credentials secret := (secret.get "username", secret.get "password")

theorem backslash_not_mem_chars : '\\' ∉ chars := by decide

theorem RandomPassword.backslash_not_mem (draw : Nat → Fin chars.length) :
    '\\' ∉ (newPassword draw).toList := by
  simp only [newPassword, String.toList, List.mem_map, List.mem_range, not_exists, not_and]
  intro i _ h
  exact backslash_not_mem_chars (h ▸ List.get_mem _ _ _)

/-- Every password `RandomPassword` makes is set exactly by the `ALTER USER` statement
of `RDSClient.SetPassword`: the string literal ends the statement and denotes it. -/
theorem randomPassword_literal (draw : Nat → Fin chars.length) (secret : StrMap) :
    ∃ m, (RandomPassword draw).rotate secret = .ok m ∧
      Mysql.literal (Mysql.alter ((RandomPassword draw).credentials m).2) =
        some (((RandomPassword draw).credentials m).2.toList, []) := by
  refine ⟨_, rfl, ?_⟩
  simp only [RandomPassword, StrMap.get_insert, if_true]
  exact Mysql.literal_alter (RandomPassword.backslash_not_mem draw)

end PasswordRotation

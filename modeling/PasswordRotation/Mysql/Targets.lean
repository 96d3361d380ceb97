import PasswordRotation.Mysql.Client
import PasswordRotation.Mysql.Setter

/-! One user's password on each host behind a `PasswordClient` the network may fault;
`Mysql.Fleet` shows it is that user's view of the servers. -/
namespace PasswordRotation.Mysql

inductive Fault where
  | none
  | error (e : Error)
  | panic
  deriving DecidableEq, Repr

/-- One user's password on each host, and the faults of the coming calls, in order. -/
structure Targets where
  password : String → String
  faults : List Fault

def Targets.next (t : Targets) : Fault × Targets :=
  match t.faults with
  | [] => (.none, t)
  | f :: fs => (f, { t with faults := fs })

def Targets.update (t : Targets) (host p : String) : Targets :=
  { t with password := fun h => if h = host then p else t.password h }

/-- A client call after its fault: a faultless one connects to the host its
credentials name with `login`, and on success applies `change`. -/
def Targets.call (t : Targets) (login : Credentials) (change : Targets → Targets) :
    Outcome × Targets :=
  match t.next with
  | (.panic, t) => (.panicked, t)
  | (.error e, t) => (.returned (some e), t)
  | (.none, t) =>
    if t.password login.hostname = login.password then (.returned none, change t)
    else (.returned (some (errAccessDenied login.username)), t)

/-- `RDSClient` as one user's passwords see it: SetPassword connects with the current
credentials and gives the host the new password; VerifyPassword connects with the new ones. -/
def Targets.client : PasswordClient Targets where
  setPassword creds t := t.call creds.current fun t => t.update creds.current.hostname creds.new.password
  verifyPassword creds t := t.call creds.new id

def Targets.env : Env Targets := ⟨Targets.client, fun _ => false, id⟩

/-- `Set` then `Rollback` on one instance, whose set call succeeds and whose rollback
call panics: `Rollback` returns nil and the host keeps the new password. -/
theorem rollback_after_panic :
    let t : Targets := ⟨fun _ => "old", [.none, .panic]⟩
    let r₁ := oneInstance.setPassword Targets.env sampleCreds t
    let r₂ := r₁.1.rollback Targets.env sampleCreds r₁.2.2
    r₁.2.1 = none ∧ r₂.2.1 = none ∧ t.password "db1" = "old" ∧ r₂.2.2.password "db1" = "new" := by
  decide

/-! ### Passes over targets that hold the password a call expects -/

section Passes

variable {tries : UInt64} (ht : 0 < tries.toNat) {t : Targets} (hf : t.faults = [])
include ht hf

end Passes

def hostnames (dbs : List DbInstance) : List String := dbs.map (·.hostname)

end PasswordRotation.Mysql

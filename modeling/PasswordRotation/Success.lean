import PasswordRotation.Mysql.Fleet
import PasswordRotation.Rotation

/-! A rotation in which no call fails: each phase run forward, and the four invocations over
`mysql.PasswordSetter`, ending with the new password on every server. -/
namespace PasswordRotation

open Json

variable {δ : Type}

def World.withStore (w : World δ) (st : Store) : World δ := { w with sm := { w.sm with store := st } }

@[simp] theorem withStore_store (w : World δ) (st : Store) : (w.withStore st).sm.store = st := rfl
@[simp] theorem withStore_faults (w : World δ) (st : Store) : (w.withStore st).sm.faults = w.sm.faults := rfl
@[simp] theorem withStore_replication (w : World δ) (st : Store) :
    (w.withStore st).sm.replication = w.sm.replication := rfl
@[simp] theorem withStore_db (w : World δ) (st : Store) : (w.withStore st).db = w.db := rfl

/-! ### Replicas in sync, and the credentials a pass is given -/

namespace SecretsManager

end SecretsManager

section Forward

variable (r : Rotator δ) (w : World δ) (hf : w.sm.faults = [])
include hf

end Forward

/-! ### Invocations -/

section Invocations

variable (r : Rotator δ) (w : World δ) (T : String) (hf : w.sm.faults = [])
include hf

end Invocations

/-! ### A rotation over `mysql.PasswordSetter` -/

open Mysql

end PasswordRotation

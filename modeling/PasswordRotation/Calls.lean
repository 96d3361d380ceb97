import PasswordRotation.Rotator

/-! The rotator's phases as the calls they make, one atomic call at a time, so that the
calls of two invocations can interleave; `Prog.run` makes them one `Run` again. -/
namespace PasswordRotation

open Json

variable {δ α β : Type}

inductive DbCall where
  | init (event : StrMap)
  | setPassword (creds : NewPassword)
  | verifyPassword (creds : NewPassword)
  | rollback (creds : NewPassword)
  deriving DecidableEq

def PasswordSetter.call (s : PasswordSetter δ) : DbCall → δ → Option Error × δ
  | .init event => s.init event
  | .setPassword creds => s.setPassword creds
  | .verifyPassword creds => s.verifyPassword creds
  | .rollback creds => s.rollback creds

/-- A program of calls: it has returned, or it makes a Secrets Manager call `op` or a
`PasswordSetter` call `c` and goes on with `k` on the call's answer. -/
inductive Prog (α : Type) : Type 1 where
  | done (r : Except Error α)
  | sm {β : Type} (op : SecretsManager → Except Error β × SecretsManager) (k : Except Error β → Prog α)
  | db (c : DbCall) (k : Except Error Unit → Prog α)

namespace Prog

def bind : Prog α → (α → Prog β) → Prog β
  | .done (.ok a), f => f a
  | .done (.error e), _ => .done (.error e)
  | .sm op k, f => .sm op fun r => (k r).bind f
  | .db c k, f => .db c fun r => (k r).bind f

def attempt : Prog α → Prog (Except Error α)
  | .done r => .done (.ok r)
  | .sm op k => .sm op fun r => (k r).attempt
  | .db c k => .db c fun r => (k r).attempt

instance : Monad Prog where
  pure a := .done (.ok a)
  bind := Prog.bind

instance : MonadExceptOf Error Prog where
  throw e := .done (.error e)
  tryCatch p h := p.attempt.bind fun | .ok a => .done (.ok a) | .error e => h e

/-- The program as one run, each call made on the world the one before left. -/
def run (s : PasswordSetter δ) : Prog α → Run δ α
  | .done r => liftExcept r
  | .sm op k => PasswordRotation.attempt (callSm op) >>= fun r => (k r).run s
  | .db c k => PasswordRotation.attempt (callDb (s.call c)) >>= fun r => (k r).run s

end Prog

theorem attempt_bind_liftExcept (x : Run δ α) : (attempt x >>= fun r => liftExcept r) = x := by
  funext w
  show (attempt x >>= fun r => liftExcept r) w = x w
  simp only [attempt, bind, EStateM.bind]
  cases x w <;> rfl

theorem attempt_attempt_bind (y : Run δ β) (g : Except Error β → Run δ α) :
    attempt (attempt y >>= g) = attempt y >>= fun r => attempt (g r) := by
  funext w
  show attempt (attempt y >>= g) w = (attempt y >>= fun r => attempt (g r)) w
  simp only [attempt, bind, EStateM.bind]
  cases y w <;> rfl

namespace Prog

variable (s : PasswordSetter δ)

theorem run_bind (p : Prog α) (f : α → Prog β) : (p >>= f).run s = p.run s >>= fun a => (f a).run s := by
  induction p with
  | done r => cases r <;> rfl
  | sm op k ih =>
    show PasswordRotation.attempt (callSm op) >>= (fun r => ((k r) >>= f).run s) = _
    simp only [ih]
    rw [run, bind_assoc]
  | db c k ih =>
    show PasswordRotation.attempt (callDb (s.call c)) >>= (fun r => ((k r) >>= f).run s) = _
    simp only [ih]
    rw [run, bind_assoc]

theorem run_attempt (p : Prog α) : p.attempt.run s = PasswordRotation.attempt (p.run s) := by
  induction p with
  | done r => funext w; cases r <;> rfl
  | sm op k ih =>
    show PasswordRotation.attempt (callSm op) >>= (fun r => (k r).attempt.run s) = _
    simp only [ih]
    rw [run, attempt_attempt_bind]
  | db c k ih =>
    show PasswordRotation.attempt (callDb (s.call c)) >>= (fun r => (k r).attempt.run s) = _
    simp only [ih]
    rw [run, attempt_attempt_bind]

@[simp] theorem pure_bind' (a : α) (f : α → Prog β) : (pure a >>= f : Prog β) = f a := rfl

@[simp] theorem throw_bind (e : Error) (f : α → Prog β) : (throw e >>= f : Prog β) = throw e := rfl

theorem run_pure (a : α) : (pure a : Prog α).run s = pure a := rfl

theorem run_throw (e : Error) : (throw e : Prog α).run s = throw e := rfl

end Prog

/-! ### The phases, call by call -/

namespace Calls

def callSm (op : SecretsManager → Except Error α × SecretsManager) : Prog α := .sm op .done

def callDb (c : DbCall) : Prog Unit := .db c .done

def liftExcept (x : Except Error α) : Prog α := .done x

def getSecret (stage : String) : Prog (GetSecretValueOutput × StrMap) := do
  let s ← callSm (·.getSecretValue stage)
  let v ← liftExcept (readSecret s.secretString)
  pure (s, v)

def putRotated (r : Rotator δ) (curVals : StrMap) : Prog Unit := do
  let newVals ← liftExcept (r.ss.rotate curVals)
  callSm (·.putSecretValue r.clientRequestToken (marshal newVals) [AWSPENDING])

def createSecret (r : Rotator δ) : Prog Unit := do
  let (curSec, curVals) ← getSecret AWSCURRENT
  if r.clientRequestToken = curSec.versionId then throw (errSameVersion r.clientRequestToken)
  let currentHasPending := curSec.versionStages.contains AWSPENDING
  if !currentHasPending then
    match ← (getSecret AWSPENDING).attempt with
    | .error e => if e.code = some ErrCodeResourceNotFoundException then pure () else throw e
    | .ok (penSec, _) =>
      if penSec.versionId = r.clientRequestToken then return
      else throw (errAnotherPending penSec.versionId)
  putRotated r curVals

def rollback (creds : NewPassword) : Prog Unit := do
  if (← (callDb (.rollback creds)).attempt) matches .error _ then throw errRotationFailed
  let (newSecret, _) ← getSecret AWSPENDING
  let _ ← (callSm (·.updateSecretVersionStage AWSPENDING (some newSecret.versionId) none)).attempt
  throw errRotationFailed

def applyPending (r : Rotator δ) (call : NewPassword → DbCall) : Prog Unit := do
  if r.skipDb then return
  let (_, newVals) ← getSecret AWSPENDING
  let (newUsername, newPassword) := r.ss.credentials newVals
  let (_, curVals) ← getSecret AWSCURRENT
  let (curUsername, curPassword) := r.ss.credentials curVals
  let creds : NewPassword := ⟨⟨curUsername, "", curPassword⟩, ⟨newUsername, "", newPassword⟩⟩
  if (← (callDb (call creds)).attempt) matches .error _ then rollback creds

def setSecret (r : Rotator δ) : Prog Unit := applyPending r .setPassword

def testSecret (r : Rotator δ) : Prog Unit := applyPending r .verifyPassword

def pollReplication (secretId : String) : Nat → Prog Unit
  | 0 => throw (.msg "timeout waiting for secret replication StatusTypeInSync = true")
  | n + 1 => do
    match ← callSm (·.describeSecret) with
    | none => throw (.msg ("expected an non null secret for secretId " ++ secretId ++ " but received null"))
    | some statuses =>
      if statuses.all fun s => s.all (· = StatusTypeInSync) then pure ()
      else pollReplication secretId n

def checkSecretReplicationStatus (r : Rotator δ) : Prog Unit :=
  let waitDuration :=
    if r.replicationWaitDuration > 0 then r.replicationWaitDuration else DEFAULT_REPLICATION_WAIT_DURATION
  pollReplication r.secretId ((waitDuration + 499) / 500)

def finishSecret (r : Rotator δ) : Prog Unit := do
  let (curSecret, _) ← getSecret AWSCURRENT
  let (newSecret, _) ← getSecret AWSPENDING
  callSm (·.updateSecretVersionStage AWSCURRENT (some curSecret.versionId) (some newSecret.versionId))
  checkSecretReplicationStatus r
  let _ ← (callSm (·.updateSecretVersionStage AWSPENDING (some newSecret.versionId) none)).attempt

def handler (r : Rotator δ) (event : StrMap) : Prog Unit := do
  if !invokedBySecretsManager event then
    if let some e := r.ss.handler event then throw e
    return
  if let some e := r.ss.init event then throw e
  callDb (.init event)
  let r := { r with clientRequestToken := event.get "ClientRequestToken", secretId := event.get "SecretId" }
  match event.get "Step" with
  | "createSecret" => createSecret r
  | "setSecret" => setSecret r
  | "testSecret" => testSecret r
  | "finishSecret" => finishSecret r
  | _ => throw ErrInvalidStep

/-! ### Made in one run, the calls are the phases of `Rotator` -/

theorem run_callSm (s : PasswordSetter δ) (op : SecretsManager → Except Error α × SecretsManager) :
    (callSm op).run s = PasswordRotation.callSm op :=
  attempt_bind_liftExcept _

theorem run_callDb (s : PasswordSetter δ) (c : DbCall) : (callDb c).run s = PasswordRotation.callDb (s.call c) :=
  attempt_bind_liftExcept _

theorem run_getSecret (s : PasswordSetter δ) (stage : String) :
    (getSecret stage).run s = (Rotator.getSecret stage : Run δ _) := by
  simp only [getSecret, Rotator.getSecret, Prog.run_bind, run_callSm, Prog.run_pure]
  rfl

theorem run_putRotated (r : Rotator δ) (s : PasswordSetter δ) (curVals : StrMap) :
    (putRotated r curVals).run s = r.putRotated curVals := by
  simp only [putRotated, Rotator.putRotated, Prog.run_bind, run_callSm]
  rfl

theorem run_createSecret (r : Rotator δ) : (createSecret r).run r.db = r.createSecret := by
  simp only [createSecret, Rotator.createSecret, Prog.run_bind, run_getSecret, Prog.run_attempt,
    apply_ite (Prog.run r.db), Prog.run_pure, Prog.run_throw, run_putRotated]
  congr 1; funext a
  -- the same branches on both sides, each a bind over the pending read's match
  split_ifs <;> congr 1 <;> funext _ <;> try (congr 1; funext x; split <;>
    simp only [Prog.run_bind, apply_ite (Prog.run r.db), Prog.run_pure, Prog.run_throw, run_putRotated])

theorem run_rollback (r : Rotator δ) (creds : NewPassword) : (rollback creds).run r.db = r.rollback creds := by
  simp only [rollback, Rotator.rollback, Prog.run_bind, Prog.run_attempt, run_callDb, run_getSecret, run_callSm,
    apply_ite (Prog.run r.db), Prog.run_pure, Prog.run_throw]
  rfl

theorem run_applyPending (r : Rotator δ) (call : NewPassword → DbCall) :
    (applyPending r call).run r.db = r.applyPending fun creds => r.db.call (call creds) := by
  simp only [applyPending, Rotator.applyPending, Prog.run_bind, run_getSecret, run_callDb, Prog.run_attempt,
    apply_ite (Prog.run r.db), Prog.run_pure, run_rollback]
  all_goals rfl

theorem run_pollReplication (s : PasswordSetter δ) (secretId : String) (n : Nat) :
    (pollReplication secretId n).run s = (Rotator.pollReplication secretId n : Run δ Unit) := by
  induction n with
  | zero => rfl
  | succ n ih =>
    simp only [pollReplication, Rotator.pollReplication, Prog.run_bind, run_callSm]
    congr 1; funext x; split <;> simp only [Prog.run_throw, apply_ite (Prog.run s), Prog.run_pure, ih]

theorem run_finishSecret (r : Rotator δ) : (finishSecret r).run r.db = r.finishSecret := by
  simp only [finishSecret, Rotator.finishSecret, Prog.run_bind, run_getSecret, run_callSm, Prog.run_attempt,
    checkSecretReplicationStatus, Rotator.checkSecretReplicationStatus, run_pollReplication, Prog.run_pure]

/-- Made in one run, with no other client's call in between, `Handler`'s calls are
`Rotator.handler`. -/
theorem run_handler (r : Rotator δ) (event : StrMap) : (handler r event).run r.db = r.handler event := by
  simp only [handler, Rotator.handler, Prog.run_bind, run_callDb, apply_ite (Prog.run r.db), Prog.run_pure,
    Prog.run_throw]
  generalize r.ss.handler event = oh
  generalize r.ss.init event = oi
  set r' : Rotator δ := { r with clientRequestToken := event.get "ClientRequestToken", secretId := event.get "SecretId" }
  generalize event.get "Step" = step
  split_ifs
  · cases oh <;> rfl
  · cases oi
    · simp only [Prog.run_bind, Prog.run_pure, run_callDb, pure_bind]
      congr 1; funext _
      split <;> first | exact run_createSecret r' | exact run_applyPending r' _ | exact run_finishSecret r' | rfl |
        (split <;> first | rfl | contradiction)
    · rfl

end Calls

end PasswordRotation

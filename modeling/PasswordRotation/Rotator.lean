import PasswordRotation.SecretsManager
import PasswordRotation.Secret

/-! The `Rotator`: the four phases of a Secrets Manager rotation and `Handler`, each run
against the world and ending with an error or nil, keeping what it changed. -/
namespace PasswordRotation

open Json

/-- `db.PasswordSetter` over the state `δ` it keeps and changes (its memory and the
databases): each method may change the state and returns an error or nil. -/
structure PasswordSetter (δ : Type) where
  init : StrMap → δ → Option Error × δ
  setPassword : NewPassword → δ → Option Error × δ
  verifyPassword : NewPassword → δ → Option Error × δ
  rollback : NewPassword → δ → Option Error × δ

/-- What an invocation acts on: the Secrets Manager and the `PasswordSetter`'s state. -/
structure World (δ : Type) where
  sm : SecretsManager
  db : δ

/-- A function of the rotator: it returns an error or a value, and the world as it
left it either way. -/
abbrev Run (δ α : Type) := EStateM Error (World δ) α

variable {δ α : Type}

def callSm (op : SecretsManager → Except Error α × SecretsManager) : Run δ α := fun w =>
  match op w.sm with
  | (.ok a, sm) => .ok a { w with sm }
  | (.error e, sm) => .error e { w with sm }

def callDb (op : δ → Option Error × δ) : Run δ Unit := fun w =>
  match op w.db with
  | (none, db) => .ok () { w with db }
  | (some e, db) => .error e { w with db }

/-- `if err := f(); err != nil { ... }`: the error as a value. -/
def attempt (x : Run δ α) : Run δ (Except Error α) := fun w =>
  match x w with
  | .ok a w => .ok (.ok a) w
  | .error e w => .ok (.error e) w

def liftExcept (x : Except Error α) : Run δ α :=
  match x with
  | .ok a => pure a
  | .error e => throw e

def errRotationFailed : Error := .msg "Password rotation failed, see previous log output"

def ErrInvalidStep : Error := .msg "invalid Step value from event"

def errEmptySecret : Error :=
  .msg ("secret string is nil or empty string; " ++
    "it must be valid JSON like '\x7b\"username\":\"foo\",\"password\":\"bar\"\x7d'")

def errNullSecret : Error :=
  .msg ("secret string is 'null' literal; " ++
    "it must be valid JSON like '\x7b\"username\":\"foo\",\"password\":\"bar\"\x7d'")

def errSameVersion (token : String) : Error :=
  .msg ("new and current secret have the same version ID: " ++ token ++ "; expected different values")

def errAnotherPending (v : String) : Error :=
  .msg ("another pending secret exists (version ID " ++ v ++ "); " ++
    " another process might be rotating this secret, or a previous rotation failed without cleaning up")

def DEFAULT_REPLICATION_WAIT_DURATION : Nat := 10000

/-- The checks `getSecret` makes on the `SecretString` it got: not nil or empty,
JSON, and not `null`. -/
def readSecret : Option String → Except Error StrMap
  | none => .error errEmptySecret
  | some s =>
    if s = "" then .error errEmptySecret
    else
      match unmarshal s with
      | .error e => .error e
      | .ok none => .error errNullSecret
      | .ok (some v) => .ok v

theorem readSecret_marshal (m : StrMap) : readSecret (some (marshal m)) = .ok m := by
  have hne : marshal m ≠ "" := fun h => by cases congrArg String.data h
  simp [readSecret, hne, unmarshal_marshal]

theorem readSecret_error_code {s : Option String} {e : Error} (h : readSecret s = .error e) : e.code = none := by
  rcases s with _ | s
  · cases h; rfl
  · simp only [readSecret] at h
    split_ifs at h
    · cases h; rfl
    · rcases hu : unmarshal s with e' | _ | v <;> simp only [hu] at h <;> cases h
      · rw [unmarshal_error hu]; rfl
      · rfl

/-- `Rotator`, with the fields the phases read; `ReplicationWaitDuration` in
milliseconds, `0` for the default. -/
structure Rotator (δ : Type) where
  ss : SecretSetter
  db : PasswordSetter δ
  skipDb : Bool
  clientRequestToken : String
  secretId : String
  replicationWaitDuration : Nat

namespace Rotator

def getSecret (stage : String) : Run δ (GetSecretValueOutput × StrMap) := do
  let s ← callSm (·.getSecretValue stage)
  let v ← liftExcept (readSecret s.secretString)
  pure (s, v)

def putRotated (r : Rotator δ) (curVals : StrMap) : Run δ Unit := do
  let newVals ← liftExcept (r.ss.rotate curVals)
  callSm (·.putSecretValue r.clientRequestToken (marshal newVals) [AWSPENDING])

/-- `CreateSecret`: fail if the token is the current version or another version is
pending; do nothing if the token's version is pending already; else put the rotated
current value as a new version, labelled AWSPENDING. -/
def createSecret (r : Rotator δ) : Run δ Unit := do
  let (curSec, curVals) ← getSecret AWSCURRENT
  if r.clientRequestToken = curSec.versionId then throw (errSameVersion r.clientRequestToken)
  let currentHasPending := curSec.versionStages.contains AWSPENDING
  if !currentHasPending then
    match ← attempt (getSecret AWSPENDING) with
    | .error e => if e.code = some ErrCodeResourceNotFoundException then pure () else throw e
    | .ok (penSec, _) =>
      if penSec.versionId = r.clientRequestToken then return
      else throw (errAnotherPending penSec.versionId)
  r.putRotated curVals

/-- `rollback`: roll the databases back, then take AWSPENDING off the pending version;
it always ends in an error. -/
def rollback (r : Rotator δ) (creds : NewPassword) : Run δ Unit := do
  if (← attempt (callDb (r.db.rollback creds))) matches .error _ then throw errRotationFailed
  let (newSecret, _) ← getSecret AWSPENDING
  let _ ← attempt (callSm (·.updateSecretVersionStage AWSPENDING (some newSecret.versionId) none))
  throw errRotationFailed

/-- The body `SetSecret` and `TestSecret` share: build the transition from the pending
and current values, run `call` with it on the databases, and roll back if it fails. -/
def applyPending (r : Rotator δ) (call : NewPassword → δ → Option Error × δ) : Run δ Unit := do
  if r.skipDb then return
  let (_, newVals) ← getSecret AWSPENDING
  let (newUsername, newPassword) := r.ss.credentials newVals
  let (_, curVals) ← getSecret AWSCURRENT
  let (curUsername, curPassword) := r.ss.credentials curVals
  let creds : NewPassword := ⟨⟨curUsername, "", curPassword⟩, ⟨newUsername, "", newPassword⟩⟩
  if (← attempt (callDb (call creds))) matches .error _ then r.rollback creds

def setSecret (r : Rotator δ) : Run δ Unit := r.applyPending r.db.setPassword

def testSecret (r : Rotator δ) : Run δ Unit := r.applyPending r.db.verifyPassword

def pollReplication (secretId : String) : Nat → Run δ Unit
  | 0 => throw (.msg "timeout waiting for secret replication StatusTypeInSync = true")
  | n + 1 => do
    match ← callSm (·.describeSecret) with
    | none => throw (.msg ("expected an non null secret for secretId " ++ secretId ++ " but received null"))
    | some statuses =>
      if statuses.all fun s => s.all (· = StatusTypeInSync) then pure ()
      else pollReplication secretId n

/-- `checkSecretReplicationStatus`: poll until every replica is in sync, one poll each
500 ms of the wait, a `DescribeSecret` taking no time. -/
def checkSecretReplicationStatus (r : Rotator δ) : Run δ Unit :=
  let waitDuration :=
    if r.replicationWaitDuration > 0 then r.replicationWaitDuration else DEFAULT_REPLICATION_WAIT_DURATION
  pollReplication r.secretId ((waitDuration + 499) / 500)

/-- `FinishSecret`: move AWSCURRENT to the pending version, wait for replication, then
take AWSPENDING off it (a failure there is only logged). -/
def finishSecret (r : Rotator δ) : Run δ Unit := do
  let (curSecret, _) ← getSecret AWSCURRENT
  let (newSecret, _) ← getSecret AWSPENDING
  callSm (·.updateSecretVersionStage AWSCURRENT (some curSecret.versionId) (some newSecret.versionId))
  r.checkSecretReplicationStatus
  let _ ← attempt (callSm (·.updateSecretVersionStage AWSPENDING (some newSecret.versionId) none))

end Rotator

def invokedBySecretsManager (event : StrMap) : Bool :=
  (event.find? "ClientRequestToken").isSome && (event.find? "SecretId").isSome &&
    (event.find? "Step").isSome

namespace Rotator

/-- `Handler`: a user event goes to the `SecretSetter`; a Secrets Manager event runs
`Init` of both setters, then the phase its `Step` names with its token and secret. -/
def handler (r : Rotator δ) (event : StrMap) : Run δ Unit := do
  if !invokedBySecretsManager event then
    if let some e := r.ss.handler event then throw e
    return
  if let some e := r.ss.init event then throw e
  callDb (r.db.init event)
  let r := { r with clientRequestToken := event.get "ClientRequestToken", secretId := event.get "SecretId" }
  match event.get "Step" with
  | "createSecret" => r.createSecret
  | "setSecret" => r.setSecret
  | "testSecret" => r.testSecret
  | "finishSecret" => r.finishSecret
  | _ => throw ErrInvalidStep

def invoke (r : Rotator δ) (event : StrMap) (w : World δ) : Option Error × World δ :=
  match r.handler event w with
  | .ok () w' => (none, w')
  | .error e w' => (some e, w')

end Rotator

/-! ### Runs with no call failing -/

def Store.output (st : Store) (v : String) : GetSecretValueOutput :=
  ⟨v, (st.secretString v).getD none, st.versionStages v⟩

def readStage (st : Store) (stage : String) : Except Error (GetSecretValueOutput × StrMap) :=
  match st.holder stage with
  | none => .error (errStageNotFound stage)
  | some v => (readSecret (st.output v).secretString).map ((st.output v), ·)

theorem readStage_error_code {st : Store} {stage p : String} (hp : st.holder stage = some p) {e : Error}
    (h : readStage st stage = .error e) : e.code = none := by
  simp only [readStage, hp] at h
  rcases hr : readSecret (st.output p).secretString with e' | vals <;> rw [hr] at h <;> cases h
  exact readSecret_error_code hr

def World.logged (w : World δ) (c : Call) : World δ := { w with sm := { w.sm with log := w.sm.log ++ [c] } }

def resultOf (x : Except Error α) (w : World δ) : EStateM.Result Error (World δ) α :=
  match x with
  | .ok a => .ok a w
  | .error e => .error e w

theorem next_of_faults_nil {sm : SecretsManager} (h : sm.faults = []) : sm.next = (none, sm) := by
  simp [SecretsManager.next, h]

theorem getSecret_of_faults_nil (stage : String) (w : World δ) (hf : w.sm.faults = []) :
    Rotator.getSecret stage w =
      resultOf (readStage w.sm.store stage) (w.logged (.getSecretValue stage (w.sm.store.holder stage))) := by
  simp only [Rotator.getSecret, bind, EStateM.bind, callSm, SecretsManager.getSecretValue, next_of_faults_nil hf]
  rcases h : w.sm.store.holder stage with _ | v
  · simp only [readStage, h]; rfl
  · simp only [readStage, h, Except.toOption, Option.map_some', Store.output]
    rcases hr : readSecret ((w.sm.store.secretString v).getD none) with e | vals <;>
      simp only [liftExcept, hr] <;> rfl

@[simp] theorem logged_faults (w : World δ) (c : Call) : (w.logged c).sm.faults = w.sm.faults := rfl
@[simp] theorem logged_store (w : World δ) (c : Call) : (w.logged c).sm.store = w.sm.store := rfl
@[simp] theorem logged_replication (w : World δ) (c : Call) : (w.logged c).sm.replication = w.sm.replication := rfl
theorem putSecretValue_of_faults_nil {sm : SecretsManager} (hf : sm.faults = []) (token s : String)
    (stages : List String) :
    sm.putSecretValue token s stages =
      let sm' := { sm with log := sm.log ++ [.putSecretValue token s stages] }
      if hv : sm.store.hasVersion token then
        (if sm.store.secretString token = some (some s) then .ok () else .error errResourceExists, sm')
      else (.ok (), { sm' with store := SecretsManager.putNew sm.store token s stages hv }) := by
  simp only [SecretsManager.putSecretValue, next_of_faults_nil hf]
  split_ifs <;> rfl

def Call.isWrite : Call → Bool
  | .putSecretValue .. | .updateSecretVersionStage .. => true
  | _ => false

def writes (w w' : World δ) : List Call := (w'.sm.log.drop w.sm.log.length).filter Call.isWrite

theorem writes_logged (w : World δ) (c : Call) : writes w (w.logged c) = [c].filter Call.isWrite := by
  simp [writes, World.logged]

theorem writes_logged_logged (w : World δ) (c c' : Call) :
    writes w ((w.logged c).logged c') = [c, c'].filter Call.isWrite := by
  simp [writes, World.logged]

theorem writes_logged_of_le {w w' : World δ} (c : Call) (h : w.sm.log.length ≤ w'.sm.log.length) :
    writes w (w'.logged c) = writes w w' ++ [c].filter Call.isWrite := by
  simp [writes, World.logged, List.drop_append_of_le_length h]

def resultError {σ : Type} : EStateM.Result Error σ α → Option Error
  | .ok _ _ => none
  | .error e _ => some e

def resultState {σ : Type} : EStateM.Result Error σ α → σ
  | .ok _ s => s
  | .error _ s => s

def Untouched (w : World δ) (o : EStateM.Result Error (World δ) α) : Prop :=
  writes w (resultState o) = [] ∧ (resultState o).sm.store = w.sm.store

end PasswordRotation

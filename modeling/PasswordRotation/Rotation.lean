import PasswordRotation.CreateSecret
import PasswordRotation.Mysql.Targets

/-! A rotator driving `mysql.PasswordSetter` over the databases, and whole runs of
invocations: what they leave in the databases and in the Secrets Manager. -/
namespace PasswordRotation

open Json

variable {δ : Type}

/-- The `mysql.PasswordSetter` in the Lambda's memory, what `DescribeDBInstances`
answers, and the databases. -/
structure Deployment where
  setter : Mysql.PasswordSetter
  describe : Except Error (List Mysql.DBInstance)
  targets : Mysql.Targets

/-- `mysql.PasswordSetter` as the rotator's `db.PasswordSetter`, each pass run over the
databases with the context never cancelled. -/
def mysqlSetter : PasswordSetter Deployment where
  init _ d :=
    let r := d.setter.init d.describe
    (r.2, { d with setter := r.1 })
  setPassword creds d :=
    let r := d.setter.setPassword Mysql.Targets.env creds d.targets
    (r.2.1, { d with setter := r.1, targets := r.2.2 })
  verifyPassword creds d :=
    let r := d.setter.verifyPassword Mysql.Targets.env creds d.targets
    (r.2.1, { d with setter := r.1, targets := r.2.2 })
  rollback creds d :=
    let r := d.setter.rollback Mysql.Targets.env creds d.targets
    (r.2.1, { d with setter := r.1, targets := r.2.2 })

def secretsManagerEvent (token step : String) : StrMap :=
  StrMap.ofList [("ClientRequestToken", token), ("SecretId", "secret"), ("Step", step)]

/-- Invocations one after another: the error each returned and the Secrets Manager
calls it made. -/
def Rotator.runAll (r : Rotator δ) : List StrMap → World δ → List (Option Error × List Call) × World δ
  | [], w => ([], w)
  | e :: es, w =>
    let o := r.invoke e w
    let rest := r.runAll es o.2
    ((o.1, o.2.sm.log.drop w.sm.log.length) :: rest.1, rest.2)

def labelPassword (ss : SecretSetter) (st : Store) (stage : String) : Option String := do
  let v ← st.holder stage
  let vals ← (readSecret (st.secretString v).join).toOption
  pure (ss.credentials vals).2

def passwordsMatchLabels (ss : SecretSetter) (hosts : List String) (w : World Deployment) : Bool :=
  hosts.all fun h =>
    let p := some (w.db.targets.password h)
    p = labelPassword ss w.sm.store AWSCURRENT || p = labelPassword ss w.sm.store AWSPENDING

/-! ### A rotation from one current version on one database -/

def rotator : Rotator Deployment := ⟨drawA, mysqlSetter, false, "", "", 0⟩

def fresh (faults : List Mysql.Fault) : World Deployment :=
  ⟨⟨oneVersion, [], [], []⟩,
    ⟨Mysql.newPasswordSetter ⟨none, 0, 0⟩, .ok [⟨some "db-1", some ⟨some "db1"⟩⟩],
      ⟨fun _ => "old", faults⟩⟩⟩

def phases (token : String) : List StrMap :=
  ["createSecret", "setSecret", "testSecret", "finishSecret"].map (secretsManagerEvent token)

/-- A `setSecret` retried after it succeeded cannot log in with the old password; its
rollback skips the instance its own pass never set, then takes AWSPENDING off. The
database keeps the pending password, which no label carries any more. -/
theorem setSecret_retry_strands_password :
    let r : List (Option Error × List Call) × World Deployment :=
      rotator.runAll [secretsManagerEvent "vA" "createSecret",
        secretsManagerEvent "vA" "setSecret", secretsManagerEvent "vA" "setSecret"] (fresh [])
    passwordsMatchLabels drawA ["db1"] (fresh []) = true ∧
      r.1.map Prod.fst = [none, none, some errRotationFailed] ∧
      r.2.sm.store.holder AWSPENDING = none ∧ passwordsMatchLabels drawA ["db1"] r.2 = false := by
  decide

/-- Retries of phases that returned nil: a second `setSecret` fails as above, and a
second `finishSecret` finds no AWSPENDING version. -/
theorem phase_retry_fails :
    (rotator.runAll [secretsManagerEvent "vA" "createSecret", secretsManagerEvent "vA" "setSecret",
      secretsManagerEvent "vA" "setSecret"] (fresh [])).1.map Prod.fst =
        [none, none, some errRotationFailed] ∧
      (rotator.runAll (phases "vA" ++ [secretsManagerEvent "vA" "finishSecret"]) (fresh [])).1.map Prod.fst =
        [none, none, none, none, some (errStageNotFound AWSPENDING)] := by
  decide

end PasswordRotation

import PasswordRotation.Db

/-! `mysql.PasswordSetter`: `Init`'s snapshot, the retry loop `setOne`, and `setAll` with
each worker finishing before the next is dispatched. -/
namespace PasswordRotation.Mysql

structure Endpoint where
  address : Option String
  deriving DecidableEq, Repr

structure DBInstance where
  dbInstanceIdentifier : Option String
  endpoint : Option Endpoint
  deriving DecidableEq, Repr

structure Config where
  filter : Option (DBInstance → Bool)
  parallel : UInt64
  retry : UInt64

structure DbInstance where
  hostname : String
  set : Bool := false
  verified : Bool := false
  rolledBack : Bool := false
  setError : Option Error := none
  verifyError : Option Error := none
  rollbackError : Option Error := none
  deriving DecidableEq, Repr

structure PasswordSetter where
  cfg : Config
  initDone : Bool
  tries : UInt64
  maxParallel : Nat
  dbs : List DbInstance

/-- `NewPasswordSetter`: `Parallel = 0` becomes 1, the channel is filled with
`Parallel` tokens, and `tries = 1 + Retry` in 64-bit arithmetic. -/
def newPasswordSetter (cfg : Config) : PasswordSetter :=
  let cfg := if cfg.parallel = 0 then { cfg with parallel := 1 } else cfg
  { cfg, initDone := false, tries := 1 + cfg.retry, maxParallel := cfg.parallel.toNat, dbs := [] }

/-- The instances `Init` keeps, in order: those with an endpoint address that the
filter, if any, does not filter out. -/
def snapshot (filter : Option (DBInstance → Bool)) : List DBInstance → List DbInstance
  | [] => []
  | rds :: rest =>
    match rds.endpoint with
    | some ⟨some address⟩ =>
      if filter.any (· rds) then snapshot filter rest
      else { hostname := address } :: snapshot filter rest
    | _ => snapshot filter rest

/-- `PasswordSetter.Init`, given what `DescribeDBInstances` answers. -/
def PasswordSetter.init (m : PasswordSetter) (describe : Except Error (List DBInstance)) :
    PasswordSetter × Option Error :=
  if m.initDone then (m, none)
  else
    match describe with
    | .error e => (m, some e)
    | .ok instances => ({ m with dbs := snapshot m.cfg.filter instances, initDone := true }, none)

theorem PasswordSetter.init_of_initDone (m : PasswordSetter) (h : m.initDone = true)
    (describe : Except Error (List DBInstance)) : m.init describe = (m, none) := by
  simp [PasswordSetter.init, h]

inductive Action where
  | setPassword
  | verifyPassword
  | rollbackPassword
  deriving DecidableEq, Repr

def Action.text : Action → String
  | .setPassword => "setting"
  | .verifyPassword => "verify"
  | .rollbackPassword => "rollback"

structure PasswordClient (σ : Type) where
  setPassword : NewPassword → σ → Outcome × σ
  verifyPassword : NewPassword → σ → Outcome × σ

/-- What a pass runs in: the client, whether `ctx.Done()` is closed, and what happens
during `time.Sleep(RetryWait)`. -/
structure Env (σ : Type) where
  client : PasswordClient σ
  done : σ → Bool
  sleep : σ → σ

variable {σ : Type}

def Env.call (env : Env σ) : Action → NewPassword → σ → Outcome × σ
  | .verifyPassword => env.client.verifyPassword
  | .setPassword | .rollbackPassword => env.client.setPassword

def errCanceled : Error := .msg "context canceled"

def errReachedEnd (action : Action) : Error :=
  .msg ("mysql.PasswordSetter.setOne() reached end of function on " ++ action.text ++ " password")

/-- The loop of `setOne` from try `tryNo`, `fuel` tries before `tryNo` passes `tries`. -/
def setOneLoop (tries : Nat) (action : Action) (env : Env σ) (creds : NewPassword) :
    Nat → Nat → σ → Outcome × σ
  | _, 0, s => (.returned (some (errReachedEnd action)), s)
  | tryNo, fuel + 1, s =>
    match env.call action creds s with
    | (.returned (some e), s) =>
      if tryNo = tries then (.returned (some e), s)
      else if env.done s then (.returned (some e), s)
      else if env.done (env.sleep s) then (.returned (some errCanceled), env.sleep s)
      else setOneLoop tries action env creds (tryNo + 1) fuel (env.sleep s)
    | r => r

def setOne (tries : UInt64) (action : Action) (env : Env σ) (creds : NewPassword) (s : σ) :
    Outcome × σ :=
  setOneLoop tries.toNat action env creds 1 tries.toNat s

def stamp (creds : NewPassword) (hostname : String) : NewPassword :=
  ⟨{ creds.current with hostname }, { creds.new with hostname }⟩

def skips (action : Action) (d : DbInstance) : Bool :=
  action = .rollbackPassword && !d.set

/-- A worker's outcome in its instance's slots; a recovered panic records nothing. -/
def record (action : Action) : Outcome → DbInstance → DbInstance
  | .panicked, d => d
  | .returned none, d =>
    match action with
    | .setPassword => { d with set := true }
    | .verifyPassword => { d with verified := true }
    | .rollbackPassword => { d with rolledBack := true }
  | .returned (some e), d =>
    match action with
    | .setPassword => { d with setError := some e }
    | .verifyPassword => { d with verifyError := some e }
    | .rollbackPassword => { d with rollbackError := some e }

/-- The dispatch loop of `setAll`, each worker run to its end before the next target:
the instances, the environment, and whether it stopped on `ctx.Done()`. -/
def dispatch (tries : UInt64) (action : Action) (env : Env σ) (creds : NewPassword) :
    List DbInstance → σ → List DbInstance × σ × Bool
  | [], s => ([], s, false)
  | d :: ds, s =>
    if env.done s then (d :: ds, s, true)
    else if skips action d then
      let r := dispatch tries action env creds ds s
      (d :: r.1, r.2)
    else
      let o := setOne tries action env (stamp creds d.hostname) s
      let r := dispatch tries action env creds ds o.2
      (record action o.1 d :: r.1, r.2)

def DbInstance.error (d : DbInstance) : Action → Option Error
  | .setPassword => d.setError
  | .verifyPassword => d.verifyError
  | .rollbackPassword => d.rollbackError

def errCount (action : Action) (dbs : List DbInstance) : Nat :=
  (dbs.filter fun d => (d.error action).isSome).length

def aggregate (action : Action) (dbs : List DbInstance) : Option Error :=
  if 0 < errCount action dbs then
    some (.msg (action.text ++ " failed on " ++ toString (errCount action dbs) ++
      " database instances, see previous log output"))
  else none

/-- `setAll`: the instances after the pass, its error, and the environment. -/
def setAll (tries : UInt64) (action : Action) (env : Env σ) (creds : NewPassword)
    (dbs : List DbInstance) (s : σ) : List DbInstance × Option Error × σ :=
  let r := dispatch tries action env creds dbs s
  (r.1, if r.2.2 then some errCanceled else aggregate action r.1, r.2.1)

def PasswordSetter.setPassword (m : PasswordSetter) (env : Env σ) (creds : NewPassword) (s : σ) :
    PasswordSetter × Option Error × σ :=
  let r := setAll m.tries .setPassword env creds (m.dbs.map fun d => { hostname := d.hostname }) s
  ({ m with dbs := r.1 }, r.2)

def PasswordSetter.rollback (m : PasswordSetter) (env : Env σ) (creds : NewPassword) (s : σ) :
    PasswordSetter × Option Error × σ :=
  let r := setAll m.tries .rollbackPassword env creds.swap m.dbs s
  ({ m with dbs := r.1 }, r.2)

def PasswordSetter.verifyPassword (m : PasswordSetter) (env : Env σ) (creds : NewPassword)
    (s : σ) : PasswordSetter × Option Error × σ :=
  let r := setAll m.tries .verifyPassword env creds m.dbs s
  ({ m with dbs := r.1 }, r.2)

@[simp] theorem dispatch_length (tries : UInt64) (action : Action) (env : Env σ)
    (creds : NewPassword) (dbs : List DbInstance) (s : σ) :
    (dispatch tries action env creds dbs s).1.length = dbs.length := by
  induction dbs generalizing s with
  | nil => rfl
  | cons d ds ih => unfold dispatch; split_ifs <;> simp [ih]

@[simp] theorem error_record_ok (action : Action) (d : DbInstance) (a : Action) :
    (record action (.returned none) d).error a = d.error a := by
  cases action <;> cases a <;> rfl

@[simp] theorem hostname_record (action : Action) (o : Outcome) (d : DbInstance) :
    (record action o d).hostname = d.hostname := by
  rcases o with (_ | _) | _ <;> cases action <;> rfl

@[simp] theorem error_record_panicked (action : Action) (d : DbInstance) :
    record action .panicked d = d := rfl

def uniformEnv (o : Outcome) : Env Unit :=
  ⟨⟨fun _ s => (o, s), fun _ s => (o, s)⟩, fun _ => false, id⟩

def oneInstance : PasswordSetter :=
  ((newPasswordSetter ⟨none, 0, 0⟩).init (.ok [⟨some "db-1", some ⟨some "db1"⟩⟩])).1

def sampleCreds : NewPassword := ⟨⟨"app", "", "old"⟩, ⟨"app", "", "new"⟩⟩

section Uniform
/-! Passes in which every client call ends the same way and the context stays open. -/
variable {env : Env σ} {tries : UInt64} {action : Action} {creds : NewPassword}

theorem setOne_of_call (o : Outcome) (ho : ∀ e, o ≠ .returned (some e))
    (hcall : ∀ c s, (env.call action c s).1 = o) (ht : 0 < tries.toNat) (s : σ) :
    (setOne tries action env creds s).1 = o := by
  obtain ⟨n, hn⟩ : ∃ n, tries.toNat = n + 1 := ⟨tries.toNat - 1, by omega⟩
  have h := hcall creds s
  simp only [setOne, hn, setOneLoop]
  split
  · rename_i e s' he
    rw [he] at h
    exact absurd h.symm (ho e)
  · rename_i r _
    exact h

theorem dispatch_uniform (creds : NewPassword) (o : Outcome) (ho : ∀ e, o ≠ .returned (some e))
    (hcall : ∀ c s, (env.call action c s).1 = o) (hdone : ∀ s, env.done s = false)
    (ht : 0 < tries.toNat) (dbs : List DbInstance) (s : σ) :
    (dispatch tries action env creds dbs s).1 =
        dbs.map (fun d => if skips action d then d else record action o d) ∧
      (dispatch tries action env creds dbs s).2.2 = false := by
  induction dbs generalizing s with
  | nil => simp [dispatch]
  | cons d ds ih =>
    unfold dispatch
    by_cases hk : skips action d
    · simp [hdone, hk, ih]
    · simp [hdone, hk, ih, setOne_of_call o ho hcall ht]

theorem aggregate_eq_none {a : Action} {dbs : List DbInstance} :
    aggregate a dbs = none ↔ errCount a dbs = 0 := by
  unfold aggregate; split_ifs <;> simp <;> omega

theorem errCount_reset (dbs : List DbInstance) (a : Action) :
    errCount a (dbs.map fun d => ({ hostname := d.hostname } : DbInstance)) = 0 := by
  have h : ∀ d : DbInstance, (({ hostname := d.hostname } : DbInstance).error a).isSome = false := fun _ => by
    cases a <;> rfl
  simp [errCount, List.filter_map, Function.comp_def, h]

/-- A `SetPassword` pass in which every call panics: each worker recovers and records
nothing, so the pass returns nil with no instance set. -/
theorem setPassword_all_panic (m : PasswordSetter) (s : σ)
    (hcall : ∀ c s, (env.call .setPassword c s).1 = .panicked)
    (hdone : ∀ s, env.done s = false) (ht : 0 < m.tries.toNat) :
    (m.setPassword env creds s).2.1 = none ∧
      ∀ d ∈ (m.setPassword env creds s).1.dbs, d.set = false := by
  obtain ⟨h1, h2⟩ := dispatch_uniform creds _ (by simp) hcall hdone ht
    (m.dbs.map fun d => ({ hostname := d.hostname } : DbInstance)) s
  simp only [error_record_panicked, ite_self, List.map_id'] at h1
  refine ⟨?_, ?_⟩
  · simp only [PasswordSetter.setPassword, setAll, h1, h2, Bool.false_eq_true, if_false,
      aggregate_eq_none, errCount_reset]
  · simp [PasswordSetter.setPassword, setAll, h1]

theorem setPassword_all_panic_oneInstance :
    (∀ c s, ((uniformEnv .panicked).call .setPassword c s).1 = .panicked) ∧
      (∀ s, (uniformEnv .panicked).done s = false) ∧ 0 < oneInstance.tries.toNat ∧
      (oneInstance.setPassword (uniformEnv .panicked) sampleCreds ()).2.1 = none ∧
      ∀ d ∈ (oneInstance.setPassword (uniformEnv .panicked) sampleCreds ()).1.dbs, d.set = false :=
  ⟨fun _ _ => rfl, fun _ => rfl, by decide,
    setPassword_all_panic oneInstance () (fun _ _ => rfl) (fun _ => rfl) (by decide)⟩

end Uniform

/-- After a `VerifyPassword` pass whose call failed, a pass whose every call returns nil
still fails; the same holds of `Rollback` after a failed rollback. -/
theorem stale_error_leaks :
    let fail : Env Unit := uniformEnv (.returned (some (.msg "i/o timeout")))
    let ok : Env Unit := uniformEnv (.returned none)
    let m := (oneInstance.verifyPassword fail sampleCreds ()).1
    let m' := ((oneInstance.setPassword ok sampleCreds ()).1.rollback fail sampleCreds ()).1
    (m.verifyPassword ok sampleCreds ()).2.1 =
        some (.msg "verify failed on 1 database instances, see previous log output") ∧
      (m'.rollback ok sampleCreds ()).2.1 =
        some (.msg "rollback failed on 1 database instances, see previous log output") := by
  decide

/-! ### The retry budget of `setOne` -/

/-- A client whose `n`-th call (from 0) returns `outs n`, whatever it is asked, over a
state that counts the calls made and the time slept: the context is never cancelled, and
each `time.Sleep(RetryWait)` lasts `wait`. -/
def scriptedEnv (outs : Nat → Option Error) (wait : Nat) : Env (Nat × Nat) where
  client := ⟨fun _ s => (.returned (outs s.1), s.1 + 1, s.2), fun _ s => (.returned (outs s.1), s.1 + 1, s.2)⟩
  done _ := false
  sleep s := (s.1, s.2 + wait)

section Scripted

variable (outs : Nat → Option Error) (wait : Nat)

@[simp] theorem scriptedEnv_call (action : Action) (creds : NewPassword) (c t : Nat) :
    (scriptedEnv outs wait).call action creds (c, t) = (.returned (outs c), c + 1, t) := by
  cases action <;> rfl

@[simp] theorem scriptedEnv_done (s : Nat × Nat) : (scriptedEnv outs wait).done s = false := rfl

@[simp] theorem scriptedEnv_sleep (c t : Nat) : (scriptedEnv outs wait).sleep (c, t) = (c, t + wait) := rfl

theorem setOneLoop_scripted (tries : Nat) (action : Action) (creds : NewPassword) (k : Nat) :
    ∀ tryNo fuel c t, tryNo + fuel = tries + 1 → k < fuel → (∀ j < k, outs (c + j) ≠ none) →
      (outs (c + k) = none ∨ k + 1 = fuel) →
      setOneLoop tries action (scriptedEnv outs wait) creds tryNo fuel (c, t) =
        (.returned (outs (c + k)), c + k + 1, t + k * wait) := by
  induction k with
  | zero =>
    rintro tryNo (_ | fuel) c t hb hk - hstop
    · omega
    cases hc : outs c with
    | none => simp [setOneLoop, hc]
    | some e =>
      have : tryNo = tries := by simp [hc] at hstop; omega
      simp [setOneLoop, hc, this]
  | succ k ih =>
    rintro tryNo (_ | fuel) c t hb hk hfail hstop
    · omega
    have hshift : ∀ j, c + 1 + j = c + (j + 1) := fun j => by omega
    obtain ⟨e, hc⟩ := Option.ne_none_iff_exists'.mp (hfail 0 (Nat.succ_pos k))
    have hrest := ih (tryNo + 1) fuel (c + 1) (t + wait) (by omega) (by omega)
      (fun j hj => by rw [hshift]; exact hfail (j + 1) (by omega))
      (by rw [hshift]; exact hstop.imp_right (by omega))
    rw [hshift, Nat.add_assoc t, Nat.add_comm wait, ← Nat.succ_mul] at hrest
    have hne : tryNo ≠ tries := by omega
    rw [Nat.add_zero] at hc
    simp [setOneLoop, hc, hne, hrest]

theorem newPasswordSetter_tries (cfg : Config) (hr : cfg.retry.toNat + 1 < UInt64.size) :
    (newPasswordSetter cfg).tries.toNat = cfg.retry.toNat + 1 := by
  have h : (newPasswordSetter cfg).tries = 1 + cfg.retry := by
    unfold newPasswordSetter; split_ifs <;> rfl
  have h1 : (1 + cfg.retry).toNat = (1 + cfg.retry.toNat) % UInt64.size := rfl
  rw [h, h1, Nat.mod_eq_of_lt (by omega), Nat.add_comm]

/-- `setOne` keeps to the retry budget of every `Retry` below the top of the `uint` range,
with the context never cancelled, for every `RetryWait` and every sequence of results of
the client: it calls until a call returns nil or `1 + Retry` calls have been made,
sleeping `RetryWait` between two calls but not after the last, and returns the last
call's result. -/
theorem setOne_retry_budget (cfg : Config) (hr : cfg.retry.toNat + 1 < UInt64.size) (action : Action)
    (creds : NewPassword) (c t k : Nat) (hk : k ≤ cfg.retry.toNat) (hfail : ∀ j < k, outs (c + j) ≠ none)
    (hstop : outs (c + k) = none ∨ k = cfg.retry.toNat) :
    setOne (newPasswordSetter cfg).tries action (scriptedEnv outs wait) creds (c, t) =
      (.returned (outs (c + k)), c + k + 1, t + k * wait) := by
  have ht := newPasswordSetter_tries cfg hr
  exact setOneLoop_scripted outs wait _ action creds k 1 _ c t (by omega) (by omega) hfail
    (hstop.imp_right (by omega))

theorem setOne_retry_budget_third :
    let outs : Nat → Option Error := fun n => if n < 2 then some (.msg "i/o timeout") else none
    ((⟨none, 0, 2⟩ : Config).retry.toNat + 1 < UInt64.size ∧ 2 ≤ (⟨none, 0, 2⟩ : Config).retry.toNat ∧
      (∀ j < 2, outs (0 + j) ≠ none) ∧ (outs (0 + 2) = none ∨ 2 = (⟨none, 0, 2⟩ : Config).retry.toNat)) ∧
      setOne (newPasswordSetter ⟨none, 0, 2⟩).tries .setPassword (scriptedEnv outs 10) sampleCreds (0, 0) =
        (.returned (outs (0 + 2)), 0 + 2 + 1, 0 + 2 * 10) :=
  ⟨by decide, setOne_retry_budget _ 10 ⟨none, 0, 2⟩ (by decide) .setPassword sampleCreds 0 0 2 (by decide)
    (by decide) (by decide)⟩

/-- At the top `Retry`, `tries = uint(1) + cfg.Retry` wraps to 0: `setOne` makes no call
and returns its "reached end of function" error, whatever the client would answer. -/
theorem setOne_retry_wraps (filter : Option (DBInstance → Bool)) (parallel : UInt64) (action : Action)
    (creds : NewPassword) (c t : Nat) :
    (newPasswordSetter ⟨filter, parallel, 18446744073709551615⟩).tries = 0 ∧
      setOne (newPasswordSetter ⟨filter, parallel, 18446744073709551615⟩).tries action
        (scriptedEnv outs wait) creds (c, t) = (.returned (some (errReachedEnd action)), c, t) := by
  have h : (newPasswordSetter ⟨filter, parallel, 18446744073709551615⟩).tries = 0 := by
    unfold newPasswordSetter; split_ifs <;> exact (by decide : (1 : UInt64) + 18446744073709551615 = 0)
  exact ⟨h, by rw [h]; rfl⟩

end Scripted

end PasswordRotation.Mysql

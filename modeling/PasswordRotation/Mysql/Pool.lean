import Mathlib.Logic.Relation
import PasswordRotation.Mysql.Setter

/-! `setAll` as its goroutines run it, one goroutine's move a step: the tokens of the
`maxParallel` channel are conserved, and `dispatch` is one of the schedules. -/
namespace PasswordRotation.Mysql
open Relation

inductive Dispatcher where
  | select
  | holding
  | draining (cancelled : Bool)
  | returned (err : Option Error)
  deriving DecidableEq, Repr

/-- Where a worker stands: about to make try `tryNo`, after a failed try (the
`tryNo == m.tries` and first `ctx.Done()` checks, then the sleep), after the sleep
(the second check), or returned from `setOne` into its deferred function. -/
inductive Pc where
  | call (tryNo : Nat)
  | failed (tryNo : Nat) (err : Error)
  | slept (tryNo : Nat) (err : Error)
  | exit (out : Outcome)
  deriving DecidableEq, Repr

structure Worker where
  dbNo : Nat
  pc : Pc
  deriving DecidableEq, Repr

/-- The goroutines of one `setAll` call: the dispatcher's loop index and place, the
tokens in the channel, the live workers, the instances, and the environment. -/
structure Pool (σ : Type) where
  index : Nat
  disp : Dispatcher
  tokens : Nat
  workers : List Worker
  dbs : List DbInstance
  env : σ

structure Pass (σ : Type) where
  tries : UInt64
  action : Action
  env : Env σ
  creds : NewPassword

variable {σ : Type}

/-- A worker's move inside `setOne`, for an instance at `host`; `none` once it has
returned. -/
def Pass.advance (P : Pass σ) (host : String) : Pc → σ → Option (Pc × σ)
  | .call t, s =>
    if t ≤ P.tries.toNat then
      let r := P.env.call P.action (stamp P.creds host) s
      match r.1 with
      | .returned (some e) => some (.failed t e, r.2)
      | o => some (.exit o, r.2)
    else some (.exit (.returned (some (errReachedEnd P.action))), s)
  | .failed t e, s =>
    if t = P.tries.toNat then some (.exit (.returned (some e)), s)
    else if P.env.done s then some (.exit (.returned (some e)), s)
    else some (.slept t e, P.env.sleep s)
  | .slept t _, s =>
    if P.env.done s then some (.exit (.returned (some errCanceled)), s)
    else some (.call (t + 1), s)
  | .exit _, _ => none

/-- One goroutine's move. The dispatcher receives a token, or sees `ctx.Done()`, or
leaves the loop; holding a token it gives it back for a skipped rollback target or
hands it to a new worker; a worker moves inside `setOne`, or runs its deferred
function: record, give the token back, `wg.Done()`; the drained dispatcher returns. -/
inductive Pass.Step (P : Pass σ) : Pool σ → Pool σ → Prop
  | recv (p : Pool σ) : p.disp = .select → p.index < p.dbs.length → 0 < p.tokens →
      P.Step p { p with disp := .holding, tokens := p.tokens - 1 }
  | ctxDone (p : Pool σ) : p.disp = .select → p.index < p.dbs.length → P.env.done p.env →
      P.Step p { p with disp := .draining true }
  | loopEnd (p : Pool σ) : p.disp = .select → p.dbs.length ≤ p.index →
      P.Step p { p with disp := .draining false }
  | skip (p : Pool σ) (d : DbInstance) : p.disp = .holding → p.dbs[p.index]? = some d →
      skips P.action d →
      P.Step p { p with disp := .select, tokens := p.tokens + 1, index := p.index + 1 }
  | spawn (p : Pool σ) (d : DbInstance) :
      p.disp = .holding → p.dbs[p.index]? = some d → skips P.action d = false →
      P.Step p { p with
        disp := .select, index := p.index + 1, workers := ⟨p.index, .call 1⟩ :: p.workers }
  | work (p : Pool σ) (i : Nat) (w : Worker) (d : DbInstance) (pc : Pc) (s : σ) :
      p.workers[i]? = some w → p.dbs[w.dbNo]? = some d →
      P.advance d.hostname w.pc p.env = some (pc, s) →
      P.Step p { p with env := s, workers := p.workers.set i ⟨w.dbNo, pc⟩ }
  | exit (p : Pool σ) (i : Nat) (w : Worker) (o : Outcome) :
      p.workers[i]? = some w → w.pc = .exit o →
      P.Step p { p with
        dbs := p.dbs.modify (record P.action o) w.dbNo, tokens := p.tokens + 1,
        workers := p.workers.eraseIdx i }
  | finish (p : Pool σ) (c : Bool) : p.disp = .draining c → p.workers = [] →
      P.Step p { p with disp := .returned (if c then some errCanceled else aggregate P.action p.dbs) }

def Pool.start (tokens : Nat) (dbs : List DbInstance) (s : σ) : Pool σ :=
  ⟨0, .select, tokens, [], dbs, s⟩

def Pool.held (p : Pool σ) : Nat :=
  p.workers.length + if p.disp = .holding then 1 else 0

/-- The channel invariant for capacity `K`: every token is in the channel or held,
and a returned `setAll` has no live worker. -/
structure Pool.Inv (K : Nat) (p : Pool σ) : Prop where
  slots : p.tokens + p.held = K
  drained : ∀ e, p.disp = .returned e → p.workers = []

theorem Pool.inv_start (K : Nat) (dbs : List DbInstance) (s : σ) :
    (Pool.start K dbs s).Inv K :=
  ⟨by simp [Pool.start, Pool.held], by simp [Pool.start]⟩

theorem Pass.Step.inv {P : Pass σ} {K : Nat} {p q : Pool σ} (h : P.Step p q) (hp : p.Inv K) :
    q.Inv K := by
  obtain ⟨hs, hd⟩ := hp
  cases h with
  | recv h1 _ h3 => exact ⟨by simp_all [Pool.held]; omega, by simp⟩
  | ctxDone h1 => exact ⟨by simp_all [Pool.held], by simp⟩
  | loopEnd h1 => exact ⟨by simp_all [Pool.held], by simp⟩
  | skip _ h1 => exact ⟨by simp_all [Pool.held]; omega, by simp⟩
  | spawn _ h1 => exact ⟨by simp_all [Pool.held], by simp⟩
  | work i => exact ⟨by simp_all [Pool.held], fun e he => by simp_all⟩
  | exit i _ _ hi =>
    have hlt : i < p.workers.length := (List.getElem?_eq_some_iff.mp hi).1
    refine ⟨?_, fun e he => ?_⟩
    · simp only [Pool.held, List.length_eraseIdx, hlt, if_true] at hs ⊢; omega
    · simp [hd e he] at hlt
  | finish _ h1 h2 => exact ⟨by simp_all [Pool.held], fun _ _ => h2⟩

theorem Pass.inv_reach {P : Pass σ} {K : Nat} {p q : Pool σ} (h : ReflTransGen P.Step p q)
    (hp : p.Inv K) : q.Inv K := by
  induction h with
  | refl => exact hp
  | tail _ hs ih => exact hs.inv ih

def PasswordSetter.passDbs (m : PasswordSetter) : Action → List DbInstance
  | .setPassword => m.dbs.map fun d => { hostname := d.hostname }
  | .verifyPassword | .rollbackPassword => m.dbs

def PasswordSetter.pass (m : PasswordSetter) (action : Action) (env : Env σ)
    (creds : NewPassword) : Pass σ :=
  ⟨m.tries, action, env, if action = .rollbackPassword then creds.swap else creds⟩

variable (σ) in
/-- The calls a caller makes on one setter: `Init`, or a pass that its goroutines run
until `setAll` returns. -/
inductive SetterStep : PasswordSetter → PasswordSetter → Prop
  | init (m : PasswordSetter) (describe : Except Error (List DBInstance)) :
      SetterStep m (m.init describe).1
  | pass (m : PasswordSetter) (action : Action) (env : Env σ) (creds : NewPassword) (s : σ)
      (q : Pool σ) (e : Option Error) :
      ReflTransGen (m.pass action env creds).Step (Pool.start m.maxParallel (m.passDbs action) s) q →
      q.disp = .returned e → SetterStep m { m with dbs := q.dbs, maxParallel := q.tokens }

theorem newPasswordSetter_maxParallel (cfg : Config) :
    (newPasswordSetter cfg).maxParallel = max cfg.parallel.toNat 1 := by
  simp only [newPasswordSetter]
  split_ifs with h
  · simp [h]
  · have : cfg.parallel.toNat ≠ 0 := fun h' => h (UInt64.toNat.inj (by simpa using h'))
    omega

@[simp] theorem PasswordSetter.init_maxParallel (m : PasswordSetter)
    (describe : Except Error (List DBInstance)) : (m.init describe).1.maxParallel = m.maxParallel := by
  unfold PasswordSetter.init; split_ifs <;> cases describe <;> rfl

theorem SetterStep.maxParallel {K : Nat} {m m' : PasswordSetter} (h : SetterStep σ m m')
    (hm : m.maxParallel = K) : m'.maxParallel = K := by
  cases h with
  | init describe => simpa using hm
  | pass action env creds s q e hq hr =>
    have hi := Pass.inv_reach hq (Pool.inv_start m.maxParallel (m.passDbs action) s)
    simpa [Pool.held, hi.drained e hr, hr, hm] using hi.slots

/-- The worker pool never loses or duplicates a token: from `NewPasswordSetter`,
through any `Init` calls and passes, every state of every pass has the channel's
tokens plus the slots held equal to `max(Parallel, 1)`, so at most that many workers
are live, and every pass returns with all the tokens back in the channel. -/
theorem tokens_conserved (cfg : Config) {m : PasswordSetter}
    (hm : ReflTransGen (SetterStep σ) (newPasswordSetter cfg) m) (action : Action) (env : Env σ)
    (creds : NewPassword) (s : σ) {q : Pool σ}
    (hq : ReflTransGen (m.pass action env creds).Step (Pool.start m.maxParallel (m.passDbs action) s) q) :
    q.tokens + q.held = max cfg.parallel.toNat 1 ∧ q.workers.length ≤ max cfg.parallel.toNat 1 ∧
      ∀ e, q.disp = .returned e → q.tokens = max cfg.parallel.toNat 1 := by
  have hK : m.maxParallel = max cfg.parallel.toNat 1 := by
    clear hq
    induction hm with
    | refl => exact newPasswordSetter_maxParallel cfg
    | tail _ hs ih => exact hs.maxParallel ih
  have hi := Pass.inv_reach hq (Pool.inv_start m.maxParallel (m.passDbs action) s)
  rw [hK] at hi
  refine ⟨hi.slots, ?_, fun e he => ?_⟩
  · have := hi.slots; simp only [Pool.held] at this; omega
  · simpa [Pool.held, hi.drained e he, he] using hi.slots

/-! ### The sequential `setAll` is one schedule of the goroutines -/

theorem Pass.step_lone (P : Pass σ) (p : Pool σ) {n : Nat} {d : DbInstance}
    (hd : p.dbs[n]? = some d) {pc pc' : Pc} {s : σ} (h : P.advance d.hostname pc p.env = some (pc', s)) :
    P.Step { p with workers := [⟨n, pc⟩] } { p with workers := [⟨n, pc'⟩], env := s } :=
  .work _ 0 ⟨n, pc⟩ d pc' s rfl hd h

theorem Pass.reach_setOneLoop (P : Pass σ) (n : Nat) (d : DbInstance) (fuel : Nat) :
    ∀ (t : Nat) (p : Pool σ), p.dbs[n]? = some d → t + fuel = P.tries.toNat + 1 →
      ReflTransGen P.Step { p with workers := [⟨n, .call t⟩] }
        { p with
          workers := [⟨n, .exit (setOneLoop P.tries.toNat P.action P.env
            (stamp P.creds d.hostname) t fuel p.env).1⟩],
          env := (setOneLoop P.tries.toNat P.action P.env (stamp P.creds d.hostname) t fuel p.env).2 } := by
  induction fuel with
  | zero =>
    intro t p hd ht
    exact .single (P.step_lone p hd (by simp [Pass.advance, setOneLoop, show ¬ t ≤ P.tries.toNat by omega]))
  | succ fuel ih =>
    intro t p hd ht
    have hle : t ≤ P.tries.toNat := by omega
    rcases hr : P.env.call P.action (stamp P.creds d.hostname) p.env with ⟨o, s₁⟩
    rcases o with ⟨_ | e⟩ | _
    · simp only [setOneLoop, hr]
      exact .single (P.step_lone p hd (by simp [Pass.advance, hle, hr]))
    · have h1 : P.Step { p with workers := [⟨n, .call t⟩] }
          { p with workers := [⟨n, .failed t e⟩], env := s₁ } :=
        P.step_lone p hd (by simp [Pass.advance, hle, hr])
      simp only [setOneLoop, hr]
      split_ifs with htt hd1 hd2
      · exact .head h1 (.single (P.step_lone { p with env := s₁ } hd (by simp [Pass.advance, htt])))
      · exact .head h1 (.single (P.step_lone { p with env := s₁ } hd (by simp [Pass.advance, htt, hd1])))
      all_goals
        have h2 : P.Step { p with workers := [⟨n, .failed t e⟩], env := s₁ }
            { p with workers := [⟨n, .slept t e⟩], env := P.env.sleep s₁ } :=
          P.step_lone { p with env := s₁ } hd (by simp [Pass.advance, htt, hd1])
      · exact .head h1 (.head h2 (.single
          (P.step_lone { p with env := P.env.sleep s₁ } hd (by simp [Pass.advance, hd2]))))
      · have h3 : P.Step { p with workers := [⟨n, .slept t e⟩], env := P.env.sleep s₁ }
            { p with workers := [⟨n, .call (t + 1)⟩], env := P.env.sleep s₁ } :=
          P.step_lone { p with env := P.env.sleep s₁ } hd (by simp [Pass.advance, hd2])
        exact .head h1 (.head h2 (.head h3 (ih (t + 1) { p with env := P.env.sleep s₁ } hd (by omega))))
    · simp only [setOneLoop, hr]
      exact .single (P.step_lone p hd (by simp [Pass.advance, hle, hr]))

theorem modify_append_cons {α : Type} (f : α → α) (pre rest : List α) (d : α) :
    (pre ++ d :: rest).modify f pre.length = pre ++ f d :: rest := by
  induction pre <;> simp_all

theorem Pass.reach_dispatch (P : Pass σ) {K : Nat} (hK : 0 < K) (rest : List DbInstance) :
    ∀ (pre : List DbInstance) (s : σ), ∃ i, ReflTransGen P.Step
      ⟨pre.length, .select, K, [], pre ++ rest, s⟩
      ⟨i, .draining (dispatch P.tries P.action P.env P.creds rest s).2.2, K, [],
        pre ++ (dispatch P.tries P.action P.env P.creds rest s).1,
        (dispatch P.tries P.action P.env P.creds rest s).2.1⟩ := by
  induction rest with
  | nil => exact fun pre s => ⟨_, .single (.loopEnd _ rfl (by simp))⟩
  | cons d ds ih =>
    intro pre s
    have hlt : pre.length < (pre ++ d :: ds).length := by simp
    have hat : (pre ++ d :: ds)[pre.length]? = some d := by
      rw [List.getElem?_append_right (le_refl _)]; simp
    have hrecv : P.Step ⟨pre.length, .select, K, [], pre ++ d :: ds, s⟩
        ⟨pre.length, .holding, K - 1, [], pre ++ d :: ds, s⟩ := .recv _ rfl hlt hK
    by_cases hdone : P.env.done s
    · simp only [dispatch, hdone, if_true]
      exact ⟨_, .single (.ctxDone _ rfl hlt hdone)⟩
    by_cases hskip : skips P.action d
    · obtain ⟨i, hi⟩ := ih (pre ++ [d]) s
      simp only [List.append_assoc, List.singleton_append, List.length_append,
        List.length_singleton] at hi
      simp only [dispatch, hdone, hskip, Bool.false_eq_true, if_false, if_true]
      refine ⟨i, .head hrecv (.head (.skip _ d rfl hat hskip) ?_)⟩
      simpa [show K - 1 + 1 = K by omega] using hi
    · have hs : skips P.action d = false := by simpa using hskip
      have hspawn : P.Step ⟨pre.length, .holding, K - 1, [], pre ++ d :: ds, s⟩
          ⟨pre.length + 1, .select, K - 1, [⟨pre.length, .call 1⟩], pre ++ d :: ds, s⟩ :=
        .spawn _ d rfl hat hs
      have hwork := P.reach_setOneLoop pre.length d P.tries.toNat 1
        ⟨pre.length + 1, .select, K - 1, [], pre ++ d :: ds, s⟩ hat (by omega)
      let o := setOne P.tries P.action P.env (stamp P.creds d.hostname) s
      have hexit : P.Step ⟨pre.length + 1, .select, K - 1, [⟨pre.length, .exit o.1⟩], pre ++ d :: ds, o.2⟩
          ⟨pre.length + 1, .select, K - 1 + 1, [],
            (pre ++ d :: ds).modify (record P.action o.1) pre.length, o.2⟩ :=
        .exit ⟨pre.length + 1, .select, K - 1, [⟨pre.length, .exit o.1⟩], pre ++ d :: ds, o.2⟩
          0 ⟨pre.length, .exit o.1⟩ o.1 rfl rfl
      rw [modify_append_cons, show K - 1 + 1 = K by omega] at hexit
      obtain ⟨i, hi⟩ := ih (pre ++ [record P.action o.1 d]) o.2
      simp only [List.append_assoc, List.singleton_append, List.length_append,
        List.length_singleton] at hi
      simp only [dispatch, hdone, hskip, Bool.false_eq_true, if_false]
      exact ⟨i, .head hrecv (.head hspawn (hwork.trans (.head hexit hi)))⟩

/-- With a token in the channel, the sequential `setAll` is a run of the pool: the
pool reaches the returned state with the instances, result and environment `setAll`
computes, every token back. -/
theorem Pass.reach_setAll (P : Pass σ) {K : Nat} (hK : 0 < K) (dbs : List DbInstance) (s : σ) :
    ∃ i, ReflTransGen P.Step (Pool.start K dbs s)
      ⟨i, .returned (setAll P.tries P.action P.env P.creds dbs s).2.1, K, [],
        (setAll P.tries P.action P.env P.creds dbs s).1,
        (setAll P.tries P.action P.env P.creds dbs s).2.2⟩ := by
  obtain ⟨i, h⟩ := P.reach_dispatch hK dbs [] s
  exact ⟨i, h.tail (.finish _ _ rfl rfl)⟩

theorem SetterStep.of_setAll (m : PasswordSetter) (hK : 0 < m.maxParallel) (action : Action)
    (env : Env σ) (creds : NewPassword) (s : σ) :
    SetterStep σ m { m with dbs := (setAll m.tries action env (m.pass action env creds).creds
      (m.passDbs action) s).1 } := by
  obtain ⟨i, h⟩ := (m.pass action env creds).reach_setAll hK (m.passDbs action) s
  exact .pass m action env creds s _ _ h rfl

theorem SetterStep.of_setPassword (m : PasswordSetter) (hK : 0 < m.maxParallel) (env : Env σ)
    (creds : NewPassword) (s : σ) : SetterStep σ m (m.setPassword env creds s).1 :=
  SetterStep.of_setAll m hK .setPassword env creds s

theorem setPassword_step_oneInstance :
    0 < oneInstance.maxParallel ∧
      SetterStep Unit oneInstance (oneInstance.setPassword (uniformEnv (.returned none)) sampleCreds ()).1 :=
  ⟨by decide, SetterStep.of_setPassword oneInstance (by decide) _ _ _⟩

theorem tokens_conserved_holding :
    let q : Pool Unit := { Pool.start oneInstance.maxParallel
      (oneInstance.passDbs .setPassword) () with disp := .holding, tokens := 0 }
    ReflTransGen (SetterStep Unit) (newPasswordSetter ⟨none, 0, 0⟩) oneInstance ∧
      ReflTransGen (oneInstance.pass .setPassword (uniformEnv (.returned none)) sampleCreds).Step
        (Pool.start oneInstance.maxParallel (oneInstance.passDbs .setPassword) ()) q ∧
      q.tokens + q.held = 1 ∧ q.workers.length ≤ 1 ∧
      ∀ e, q.disp = .returned e → q.tokens = 1 :=
  have hm : ReflTransGen (SetterStep Unit) (newPasswordSetter ⟨none, 0, 0⟩) oneInstance :=
    .single (.init _ _)
  have hq : ReflTransGen (oneInstance.pass .setPassword (uniformEnv (.returned none)) sampleCreds).Step
      (Pool.start oneInstance.maxParallel (oneInstance.passDbs .setPassword) ())
      { Pool.start oneInstance.maxParallel (oneInstance.passDbs .setPassword) () with
        disp := .holding, tokens := 0 } :=
    .single (.recv _ rfl (by decide) (by decide))
  ⟨hm, hq, tokens_conserved ⟨none, 0, 0⟩ hm .setPassword _ sampleCreds () hq⟩

end PasswordRotation.Mysql

import PasswordRotation.Mysql.Parallel

/-! The account's MySQL servers, each with its users, behind `RDSClient`. `Targets` is one
user's view of them: a pass whose calls all log in as that user runs the same over both. -/
namespace PasswordRotation.Mysql
open Relation

/-- The MySQL server at each hostname, and the faults of the coming calls, in order. -/
@[ext] structure Fleet where
  servers : String → Server
  faults : List Fault

def Fleet.next (f : Fleet) : Fault × Fleet :=
  match f.faults with
  | [] => (.none, f)
  | x :: xs => (x, { f with faults := xs })

/-- A client call after its fault: a faultless one runs `op` on the server at `host`. -/
def Fleet.call (f : Fleet) (host : String) (op : Server → Option Error × Server) : Outcome × Fleet :=
  match f.next with
  | (.panic, f) => (.panicked, f)
  | (.error e, f) => (.returned (some e), f)
  | (.none, f) =>
    let r := op (f.servers host)
    (.returned r.1, { f with servers := fun h => if h = host then r.2 else f.servers h })

/-- `RDSClient` as the `PasswordClient` of a pass: each call connects to the server its
credentials name. -/
def Fleet.client (c : RDSClient) : PasswordClient Fleet where
  setPassword creds f := f.call creds.current.hostname (c.setPassword creds)
  verifyPassword creds f := f.call creds.new.hostname fun srv => (c.verifyPassword creds srv, srv)

def Fleet.envWith (c : RDSClient) (done : Fleet → Bool) : Env Fleet := ⟨Fleet.client c, done, id⟩

/-! ### One user's view -/

/-- `f₀` with user `u`'s password on each host of `hosts` taken from `t`, and the faults of `t`. -/
def Fleet.withUser (f₀ : Fleet) (u : String) (hosts : List String) (t : Targets) : Fleet where
  servers h := if h ∈ hosts then (f₀.servers h).setPassword u (t.password h) else f₀.servers h
  faults := t.faults

/-- User `u`'s password on each server, `""` where it has none. -/
def Fleet.userView (f : Fleet) (u : String) : Targets := ⟨fun h => (f.servers h u).getD "", f.faults⟩

/-- The calls of a pass of `action` with `creds` log in as `u`: `SetPassword` and
`Rollback` with `u`'s current credentials and a new password without a backslash,
`VerifyPassword` with `u`'s new credentials. -/
def AsUser (u : String) : Action → NewPassword → Prop
  | .verifyPassword, creds => creds.new.username = u
  | .setPassword, creds | .rollbackPassword, creds =>
    creds.current.username = u ∧ '\\' ∉ creds.new.password.toList

theorem Server.setPassword_setPassword (srv : Server) (u p q : String) :
    (srv.setPassword u p).setPassword u q = srv.setPassword u q := by
  funext v; simp only [Server.setPassword]; split_ifs <;> rfl

section Lift

variable (f₀ : Fleet) (u : String) (hosts : List String)

theorem Fleet.withUser_userView (hhas : ∀ h ∈ hosts, (f₀.servers h u).isSome) :
    f₀.withUser u hosts (f₀.userView u) = f₀ := by
  ext1
  · funext h v
    by_cases hh : h ∈ hosts
    · obtain ⟨p, hp⟩ := Option.isSome_iff_exists.mp (hhas h hh)
      by_cases hv : v = u
      · subst hv; simp [Fleet.withUser, Fleet.userView, Server.setPassword, hh, hp]
      · simp [Fleet.withUser, Server.setPassword, hh, hv]
    · simp [Fleet.withUser, hh]
  · rfl

@[simp] theorem Fleet.withUser_faults (t : Targets) : (f₀.withUser u hosts t).faults = t.faults := rfl

theorem Fleet.withUser_user {h : String} (hh : h ∈ hosts) (t : Targets) :
    (f₀.withUser u hosts t).servers h u = some (t.password h) := by
  simp [Fleet.withUser, hh, Server.setPassword]

theorem Fleet.mk_self (f : Fleet) (host : String) :
    Fleet.mk (fun h => if h = host then f.servers host else f.servers h) f.faults = f := by
  ext1
  · funext h; by_cases hx : h = host <;> simp [hx]
  · rfl

theorem Fleet.next_withUser (t : Targets) :
    (f₀.withUser u hosts t).next = (t.next.1, f₀.withUser u hosts t.next.2) := by
  rcases t with ⟨_, _ | ⟨_, _⟩⟩ <;> rfl

end Lift

/-! ### A call on the fleet is the call on the view -/

section Call

variable {f₀ : Fleet} {u : String} {hosts : List String} {c : RDSClient} {creds : NewPassword} {host : String}
  (hh : host ∈ hosts)
include hh

theorem Fleet.call_set_withUser (hdry : c.dryrun = false) (hu : creds.current.username = u)
    (hslash : '\\' ∉ creds.new.password.toList) (t : Targets) :
    (f₀.withUser u hosts t).call host (c.setPassword (stamp creds host)) =
      Prod.map id (f₀.withUser u hosts)
        (t.call (stamp creds host).current fun t => t.update host creds.new.password) := by
  subst hu
  simp only [Fleet.call, Targets.call, Fleet.next_withUser]
  rcases t.next with ⟨_ | e | _, t'⟩
  · simp only [RDSClient.setPassword, Server.connects, Fleet.withUser_user _ _ _ hh, stamp, Option.some.injEq,
      hdry, Bool.false_eq_true, if_false, decide_eq_true_eq]
    split_ifs with hp
    · simp only [Server.exec, literal_alter hslash, Prod.map, id]
      congr 1
      ext1
      · funext h
        by_cases hx : h = host
        · subst hx; simp [Fleet.withUser, hh, Targets.update, Server.setPassword_setPassword]
        · simp [hx, Fleet.withUser, Targets.update]
      · rfl
    · simp only [Fleet.mk_self, Prod.map, id]
  all_goals rfl

theorem Fleet.call_verify_withUser (hu : creds.new.username = u) (t : Targets) :
    (f₀.withUser u hosts t).call host (fun srv => (c.verifyPassword (stamp creds host) srv, srv)) =
      Prod.map id (f₀.withUser u hosts) (t.call (stamp creds host).new id) := by
  subst hu
  simp only [Fleet.call, Targets.call, Fleet.next_withUser]
  rcases t.next with ⟨_ | e | _, t'⟩
  · simp only [RDSClient.verifyPassword, Server.connects, Fleet.withUser_user _ _ _ hh, stamp, Option.some.injEq,
      decide_eq_true_eq]
    split_ifs <;> simp only [Fleet.mk_self, Prod.map, id]
  all_goals rfl

theorem Env.call_withUser (hdry : c.dryrun = false) {a : Action} (hu : AsUser u a creds) {env : Env Fleet}
    (hc : env.client = Fleet.client c) (env' : Env Targets) (hc' : env'.client = Targets.client) (t : Targets) :
    env.call a (stamp creds host) (f₀.withUser u hosts t) =
      Prod.map id (f₀.withUser u hosts) (env'.call a (stamp creds host) t) := by
  cases a with
  | verifyPassword =>
    simp only [Env.call, hc, hc', Fleet.client, Targets.client]
    exact Fleet.call_verify_withUser hh hu t
  | setPassword | rollbackPassword =>
    simp only [Env.call, hc, hc', Fleet.client, Targets.client]
    exact Fleet.call_set_withUser hh hdry hu.1 hu.2 t

end Call

/-! ### Every run over the fleet is a run over the view -/

def Pool.mapEnv {σ τ : Type} (g : σ → τ) (p : Pool σ) : Pool τ :=
  ⟨p.index, p.disp, p.tokens, p.workers, p.dbs, g p.env⟩

/-- The pass over a user's view that a pass over the fleet stands for, `L` giving the fleet
of each view. -/
def Pass.onView (P : Pass Fleet) (L : Targets → Fleet) : Pass Targets :=
  ⟨P.tries, P.action, Targets.envWith (P.env.done ∘ L), P.creds⟩

section Simulation

variable {f₀ : Fleet} {u : String} {hosts : List String} {c : RDSClient} (hdry : c.dryrun = false)
  {P : Pass Fleet} (hcl : P.env.client = Fleet.client c) (hsl : P.env.sleep = id) (hu : AsUser u P.action P.creds)
include hdry hcl hsl hu

theorem Pass.advance_withUser {host : String} (hh : host ∈ hosts) (pc : Pc) (t : Targets) :
    P.advance host pc (f₀.withUser u hosts t) =
      ((P.onView (f₀.withUser u hosts)).advance host pc t).map (Prod.map id (f₀.withUser u hosts)) := by
  cases pc with
  | call tn =>
    simp only [Pass.advance, Pass.onView]
    split_ifs
    · rw [Env.call_withUser hh hdry hu hcl (Targets.envWith _) rfl]
      rcases (Targets.envWith _).call P.action (stamp P.creds host) t with ⟨(_ | _) | _, t'⟩ <;> rfl
    · rfl
  | failed tn e =>
    simp only [Pass.advance, Pass.onView, Targets.envWith, Function.comp, hsl]
    split_ifs <;> rfl
  | slept tn e =>
    simp only [Pass.advance, Pass.onView, Targets.envWith, Function.comp]
    split_ifs <;> rfl
  | exit o => rfl

theorem Pass.Step.withUser {p : Pool Targets} {q' : Pool Fleet} (h : P.Step (p.mapEnv (f₀.withUser u hosts)) q')
    (hhosts : ∀ x ∈ hostnames p.dbs, x ∈ hosts) :
    ∃ q, (P.onView (f₀.withUser u hosts)).Step p q ∧ q' = q.mapEnv (f₀.withUser u hosts) := by
  cases h with
  | recv h1 h2 h3 => exact ⟨_, .recv p h1 h2 h3, rfl⟩
  | ctxDone h1 h2 h3 => exact ⟨_, .ctxDone p h1 h2 h3, rfl⟩
  | loopEnd h1 h2 => exact ⟨_, .loopEnd p h1 h2, rfl⟩
  | skip d h1 h2 h3 => exact ⟨_, .skip p d h1 h2 h3, rfl⟩
  | spawn d h1 h2 h3 => exact ⟨_, .spawn p d h1 h2 h3, rfl⟩
  | work i w d pc s h1 h2 h3 =>
    obtain ⟨⟨pc₁, t₁⟩, h4, h5⟩ := Option.map_eq_some'.mp
      ((Pass.advance_withUser hdry hcl hsl hu (hhosts _ (mem_hostnames h2)) w.pc p.env).symm.trans h3)
    cases h5
    exact ⟨_, .work p i w d _ t₁ h1 h2 h4, rfl⟩
  | exit i w o h1 h2 => exact ⟨_, .exit p i w o h1 h2, rfl⟩
  | finish b h1 h2 => exact ⟨_, .finish p b h1 h2, rfl⟩

theorem Pass.reach_withUser {p : Pool Targets} {q' : Pool Fleet}
    (h : ReflTransGen P.Step (p.mapEnv (f₀.withUser u hosts)) q') (hhosts : ∀ x ∈ hostnames p.dbs, x ∈ hosts) :
    ∃ q, ReflTransGen (P.onView (f₀.withUser u hosts)).Step p q ∧ q' = q.mapEnv (f₀.withUser u hosts) := by
  induction h with
  | refl => exact ⟨p, .refl, rfl⟩
  | tail _ hs ih =>
    obtain ⟨q, hq, rfl⟩ := ih
    obtain ⟨r, hr, rfl⟩ := hs.withUser hdry hcl hsl hu (by rwa [Pass.reach_hostnames hq])
    exact ⟨r, hq.tail hr, rfl⟩

/-- `Targets` refines the fleet for a pass whose calls log in as `u`: every run of the pass
from `f₀` with `u`'s passwords on `hosts` taken from `t` is a run of the same pass over
`t`, returning the same instances and error, and the fleet it leaves is `f₀` with `u`'s
passwords from where that run leaves `t`. -/
theorem Pass.returns_withUser {K : Nat} {dbs dbs' : List DbInstance} {e : Option Error} {t : Targets} {f f' : Fleet}
    (hf : f₀.withUser u hosts t = f) (hhosts : ∀ x ∈ hostnames dbs, x ∈ hosts) (h : P.Returns K dbs f dbs' e f') :
    ∃ t', (P.onView (f₀.withUser u hosts)).Returns K dbs t dbs' e t' ∧ f' = f₀.withUser u hosts t' := by
  subst hf
  obtain ⟨q', hq', hd, hdbs, rfl⟩ := h
  have hq'' : ReflTransGen P.Step ((Pool.start K dbs t).mapEnv (f₀.withUser u hosts)) q' := hq'
  obtain ⟨q, hq, rfl⟩ := Pass.reach_withUser hdry hcl hsl hu hq'' hhosts
  exact ⟨q.env, ⟨q, hq, hd, hdbs, rfl⟩, rfl⟩

end Simulation

/-! ### The sequential `setAll` over the fleet -/

section Serial

variable {f₀ : Fleet} {u : String} {hosts : List String} {c : RDSClient} (hdry : c.dryrun = false)
  {a : Action} {creds : NewPassword} (hu : AsUser u a creds) (done : Fleet → Bool)
include hdry hu

end Serial

theorem Pass.Returns.hostnames {σ : Type} {P : Pass σ} {K : Nat} {dbs dbs' : List DbInstance} {s s' : σ}
    {e : Option Error} (h : P.Returns K dbs s dbs' e s') : hostnames dbs' = hostnames dbs := by
  obtain ⟨q, hq, -, rfl, -⟩ := h
  exact Pass.reach_hostnames hq

theorem PasswordSetter.returns_withUser (m : PasswordSetter) (a : Action) {c : RDSClient} (hdry : c.dryrun = false)
    {done : Fleet → Bool} {creds : NewPassword} {f₀ : Fleet} {u : String} {hosts : List String} {t : Targets}
    {f f' : Fleet} (hf : f₀.withUser u hosts t = f) (hu : AsUser u a (m.pass a (Fleet.envWith c done) creds).creds)
    {K : Nat} {dbs dbs' : List DbInstance} {e : Option Error} (hhosts : ∀ x ∈ hostnames dbs, x ∈ hosts)
    (h : (m.pass a (Fleet.envWith c done) creds).Returns K dbs f dbs' e f') :
    ∃ t', (m.pass a (Targets.envWith (done ∘ f₀.withUser u hosts)) creds).Returns K dbs t dbs' e t' ∧
      f' = f₀.withUser u hosts t' :=
  Pass.returns_withUser hdry rfl rfl hu hf hhosts h

theorem PasswordSetter.returns_setPassword_view (m : PasswordSetter) {c : RDSClient} (hdry : c.dryrun = false)
    {done : Fleet → Bool} {creds : NewPassword} (hslash : '\\' ∉ creds.new.password.toList) {f f' : Fleet}
    (hhas : ∀ h ∈ hostnames m.dbs, (f.servers h creds.current.username).isSome) {dbs' : List DbInstance}
    {e : Option Error}
    (h : (m.pass .setPassword (Fleet.envWith c done) creds).Returns m.maxParallel (m.passDbs .setPassword) f
      dbs' e f') :
    ∃ t', (m.pass .setPassword (Targets.envWith (done ∘ f.withUser creds.current.username (hostnames m.dbs)))
        creds).Returns m.maxParallel (m.passDbs .setPassword) (f.userView creds.current.username) dbs' e t' ∧
      f' = f.withUser creds.current.username (hostnames m.dbs) t' :=
  m.returns_withUser .setPassword hdry (f.withUser_userView _ _ hhas) ⟨rfl, hslash⟩
    (by rw [hostnames_passDbs_set]; exact fun _ => id) h

/-! ### `SetPassword`, `Rollback` and `VerifyPassword` over the fleet -/

def oneServer (faults : List Fault) : Fleet := ⟨fun _ u => if u = "app" then some "old" else none, faults⟩

def tlsClient : RDSClient := ⟨true, false⟩

/-- `VerifyPassword` after a `SetPassword` that returned nil with no panic among its
faults, over distinct hosts, with at least one try, `RDSClient` not in dry-run mode, a
transition that keeps the username and a new password without a backslash, from servers
where that user has a password. `SetPassword` may have run in any schedule, with its calls
failing and retried and with any context. On a network that faults none of its calls and
with its context open, `VerifyPassword` returns nil in every schedule of its goroutines,
and leaves the servers as they were. -/
theorem verify_after_setPassword (m : PasswordSetter) (c : RDSClient) (creds : NewPassword) (done : Fleet → Bool)
    {f f₁ f₂ : Fleet} {dbs₁ dbs₂ : List DbInstance} {e₂ : Option Error} (hnd : (hostnames m.dbs).Nodup)
    (htries : 0 < m.tries.toNat) (hdry : c.dryrun = false) (huser : creds.new.username = creds.current.username)
    (hslash : '\\' ∉ creds.new.password.toList)
    (hhas : ∀ h ∈ hostnames m.dbs, (f.servers h creds.current.username).isSome) (hnp : Fault.panic ∉ f.faults)
    (h₁ : (m.pass .setPassword (Fleet.envWith c done) creds).Returns m.maxParallel (m.passDbs .setPassword) f
      dbs₁ none f₁)
    (hf : f₁.faults = [])
    (h₂ : (m.pass .verifyPassword (Fleet.envWith c fun _ => false) creds).Returns m.maxParallel dbs₁ f₁ dbs₂ e₂ f₂) :
    e₂ = none ∧ f₂ = f₁ := by
  obtain ⟨t₁, ht₁, rfl⟩ := m.returns_setPassword_view hdry hslash hhas h₁
  obtain ⟨t₂, ht₂, rfl⟩ := m.returns_withUser .verifyPassword hdry rfl huser
    (by rw [h₁.hostnames, hostnames_passDbs_set]; exact fun _ => id) h₂
  obtain ⟨rfl, rfl⟩ := verify_after_setPassword_targets m creds _ hnd htries hnp ht₁ hf ht₂
  exact ⟨rfl, rfl⟩

theorem verify_after_setPassword_oneInstance :
    let env := Fleet.envWith tlsClient fun _ => false
    let r₁ := setAll oneInstance.tries .setPassword env sampleCreds (oneInstance.passDbs .setPassword) (oneServer [])
    let r₂ := setAll oneInstance.tries .verifyPassword env sampleCreds r₁.1 r₁.2.2
    ((hostnames oneInstance.dbs).Nodup ∧ 0 < oneInstance.tries.toNat ∧ tlsClient.dryrun = false ∧
      sampleCreds.new.username = sampleCreds.current.username ∧ '\\' ∉ sampleCreds.new.password.toList ∧
      (∀ h ∈ hostnames oneInstance.dbs, ((oneServer []).servers h sampleCreds.current.username).isSome) ∧
      Fault.panic ∉ (oneServer []).faults ∧
      (oneInstance.pass .setPassword env sampleCreds).Returns oneInstance.maxParallel
        (oneInstance.passDbs .setPassword) (oneServer []) r₁.1 none r₁.2.2 ∧ r₁.2.2.faults = [] ∧
      (oneInstance.pass .verifyPassword env sampleCreds).Returns oneInstance.maxParallel
        r₁.1 r₁.2.2 r₂.1 r₂.2.1 r₂.2.2) ∧
    r₂.2.1 = none ∧ r₂.2.2 = r₁.2.2 := by
  intro env r₁ r₂
  have h₁ : (oneInstance.pass .setPassword env sampleCreds).Returns oneInstance.maxParallel
      (oneInstance.passDbs .setPassword) (oneServer []) r₁.1 r₁.2.1 r₁.2.2 := Pass.returns_setAll _ (by decide) rfl
  rw [show r₁.2.1 = none by decide] at h₁
  have h₂ : (oneInstance.pass .verifyPassword env sampleCreds).Returns oneInstance.maxParallel
      r₁.1 r₁.2.2 r₂.1 r₂.2.1 r₂.2.2 := Pass.returns_setAll _ (by decide) rfl
  have hhas : ∀ h ∈ hostnames oneInstance.dbs, ((oneServer []).servers h sampleCreds.current.username).isSome :=
    fun _ _ => rfl
  exact ⟨⟨by decide, by decide, rfl, rfl, by decide, hhas, by decide, h₁, by decide, h₂⟩,
    verify_after_setPassword oneInstance tlsClient sampleCreds _ (by decide) (by decide) rfl rfl (by decide) hhas
      (by decide) h₁ (by decide) h₂⟩

end PasswordRotation.Mysql

import PasswordRotation.Mysql.Serial
import PasswordRotation.Mysql.Servers

/-! Any `Parallel`: over distinct hosts on a faultless network, each worker acts on its own
host only, so every schedule returns what the sequential `setAll` computes. -/
namespace PasswordRotation.Mysql
open Relation

/-! ### Servers the network does not fault -/

theorem Targets.next_of_faults_nil {t : Targets} (h : t.faults = []) : t.next = (.none, t) := by
  simp [Targets.next, h]

theorem Targets.call_of_faults_nil {t : Targets} (h : t.faults = []) (login : Credentials)
    (change : Targets → Targets) :
    t.call login change = if t.password login.hostname = login.password then (.returned none, change t)
      else (.returned (some (errAccessDenied login.username)), t) := by
  simp [Targets.call, Targets.next_of_faults_nil h]

@[simp] theorem Targets.update_faults (t : Targets) (host p : String) : (t.update host p).faults = t.faults := rfl

@[simp] theorem Targets.update_password (t : Targets) (host p h : String) :
    (t.update host p).password h = if h = host then p else t.password h := rfl

@[simp] theorem Targets.update_update (t : Targets) (host p p' : String) :
    (t.update host p).update host p' = t.update host p' := by
  simp only [Targets.update, Targets.mk.injEq, and_true]
  funext h; split_ifs <;> rfl

@[simp] theorem Targets.update_self (t : Targets) (host : String) : t.update host (t.password host) = t := by
  cases t
  simp only [Targets.update, Targets.mk.injEq, and_true]
  funext h; split_ifs with hh <;> simp [hh]

theorem Targets.update_of_eq {s s' : Targets} {host x : String} (h : s' = s.update host x) (y : String) :
    s'.update host y = s.update host y := by
  rw [h, Targets.update_update]

theorem Targets.ext_password {t t' : Targets} (hp : ∀ h, t.password h = t'.password h)
    (hf : t.faults = t'.faults) : t = t' := by
  cases t; cases t'
  simp only [Targets.mk.injEq]
  exact ⟨funext hp, hf⟩

def atHost (host : String) (r : Outcome × Targets) : Outcome × String := (r.1, r.2.password host)

/-- `f` reads and writes `host` only, on servers the network does not fault: servers that
agree there give the same outcome and leave the same password there, and `f` changes no
other host and no fault. -/
structure OnHost (host : String) (f : Targets → Outcome × Targets) : Prop where
  congr : ∀ s s₂ : Targets, s.faults = [] → s₂.faults = [] → s.password host = s₂.password host →
    atHost host (f s) = atHost host (f s₂)
  frame : ∀ s : Targets, s.faults = [] → (f s).2 = s.update host ((f s).2.password host)

section OnHost

variable {host : String} {f g : Targets → Outcome × Targets}

theorem OnHost.stay (o : Outcome) : OnHost host fun s => (o, s) :=
  ⟨fun _ _ _ _ h => by simp [atHost, h], fun _ _ => by simp⟩

theorem OnHost.of_eq (h : ∀ s, s.faults = [] → f s = g s) (hg : OnHost host g) : OnHost host f :=
  ⟨fun s s₂ hs hs₂ hh => by rw [h s hs, h s₂ hs₂]; exact hg.congr s s₂ hs hs₂ hh,
    fun s hs => by rw [h s hs]; exact hg.frame s hs⟩

theorem OnHost.faults (hf : OnHost host f) {s : Targets} (hs : s.faults = []) : (f s).2.faults = [] := by
  rw [hf.frame s hs]; exact hs

end OnHost

/-! ### A worker reads and writes its own host only -/

section Alone

variable {P : Pass Targets} (hcl : P.env.client = Targets.client) (hd : ∀ s, P.env.done s = false)
  (hsl : P.env.sleep = id)

include hcl in
theorem onHost_call (host : String) : OnHost host (P.env.call P.action (stamp P.creds host)) := by
  by_cases ha : P.action = .verifyPassword
  · refine .of_eq (fun s hs => ?_) (g := fun s => if s.password host = P.creds.new.password then
      (.returned none, s) else (.returned (some (errAccessDenied P.creds.new.username)), s)) ?_
    · simp [Targets.call_of_client hcl, ha, Targets.call_of_faults_nil hs, stamp]
    · exact ⟨fun s s₂ _ _ hh => by simp only [hh]; split_ifs <;> simp [atHost, hh],
        fun s _ => by split_ifs <;> simp⟩
  · refine .of_eq (fun s hs => ?_) (g := fun s => if s.password host = P.creds.current.password then
      (.returned none, s.update host P.creds.new.password)
      else (.returned (some (errAccessDenied P.creds.current.username)), s)) ?_
    · simp [Targets.call_of_client hcl, ha, Targets.call_of_faults_nil hs, stamp]
    · exact ⟨fun s s₂ _ _ hh => by simp only [hh]; split_ifs <;> simp [atHost, hh],
        fun s _ => by split_ifs <;> simp⟩

include hcl hsl in
theorem Pass.advance_frame {host : String} {pc pc' : Pc} {s s' : Targets}
    (h : P.advance host pc s = some (pc', s')) (hs : s.faults = []) : s' = s.update host (s'.password host) := by
  rcases P.advance_cases h with ⟨rfl, -⟩ | ⟨hs', -⟩
  · exact (onHost_call hcl host).frame s hs
  · rcases hs' with rfl | rfl <;> simp [hsl]

omit hcl in
theorem Pass.finishPc_call_one (host : String) (s : Targets) :
    P.finishPc host (.call 1) s = setOne P.tries P.action P.env (stamp P.creds host) s := by
  simp [Pass.finishPc, setOne]

include hcl hd hsl

theorem onHost_setOneLoop (host : String) (k fuel : Nat) :
    OnHost host (setOneLoop P.tries.toNat P.action P.env (stamp P.creds host) k fuel) := by
  induction fuel generalizing k with
  | zero => exact .of_eq (fun s _ => rfl) (.stay _)
  | succ fuel ih =>
    have C := onHost_call hcl (P := P) host
    constructor
    · intro s s₂ hs hs₂ hh
      have hc := C.congr s s₂ hs hs₂ hh
      have hf := C.faults hs
      have hf₂ := C.faults hs₂
      rcases hr : P.env.call P.action (stamp P.creds host) s with ⟨o, s'⟩
      rcases hr₂ : P.env.call P.action (stamp P.creds host) s₂ with ⟨o₂, s₂'⟩
      simp only [hr, hr₂, atHost, Prod.mk.injEq] at hc hf hf₂
      obtain ⟨rfl, hp⟩ := hc
      rcases o with (_ | e) | _ <;> simp only [setOneLoop, hr, hr₂, hd, hsl, id, Bool.false_eq_true, if_false]
      · simp [atHost, hp]
      · split_ifs
        · simp [atHost, hp]
        · exact (ih (k + 1)).congr s' s₂' hf hf₂ hp
      · simp [atHost, hp]
    · intro s hs
      have hframe := C.frame s hs
      have hf := C.faults hs
      rcases hr : P.env.call P.action (stamp P.creds host) s with ⟨o, s'⟩
      simp only [hr] at hframe hf
      rcases o with (_ | e) | _ <;> simp only [setOneLoop, hr, hd, hsl, id, Bool.false_eq_true, if_false]
      · exact hframe
      · split_ifs
        · exact hframe
        · rw [(ih (k + 1)).frame s' hf, Targets.update_password, if_pos rfl]
          exact Targets.update_of_eq hframe _
      · exact hframe

theorem onHost_finishPc (host : String) (pc : Pc) : OnHost host (P.finishPc host pc) := by
  cases pc with
  | call t => exact onHost_setOneLoop hcl hd hsl host t _
  | failed t e =>
    by_cases ht : t = P.tries.toNat
    · exact .of_eq (fun s _ => by simp [Pass.finishPc, ht]) (.stay (.returned (some e)))
    · exact .of_eq (fun s _ => by simp [Pass.finishPc, ht, hd, hsl])
        (onHost_setOneLoop hcl hd hsl host (t + 1) (P.tries.toNat - t))
  | slept t e =>
    exact .of_eq (fun s _ => by simp [Pass.finishPc, hd])
      (onHost_setOneLoop hcl hd hsl host (t + 1) (P.tries.toNat - t))
  | exit o => exact .stay o

end Alone

/-! ### Every schedule ends as the workers run alone -/

/-- The `setOne` of instance `d`, run alone on the servers `t₀`. -/
def Pass.alone (P : Pass Targets) (t₀ : Targets) (d : DbInstance) : Outcome × Targets :=
  setOne P.tries P.action P.env (stamp P.creds d.hostname) t₀

def Pass.settledDb (P : Pass Targets) (t₀ : Targets) (d : DbInstance) : DbInstance :=
  if skips P.action d then d else record P.action (P.alone t₀ d).1 d

def Pass.settledPassword (P : Pass Targets) (t₀ : Targets) (d : DbInstance) : String :=
  if skips P.action d then t₀.password d.hostname else (P.alone t₀ d).2.password d.hostname

/-- What a pass keeps against the instances `dbs` and the servers `t₀` it started from, on
a network that faults no call: an instance the dispatcher has not reached is as it was,
on a host as it was; a live worker will end as its `setOne` alone on `t₀` does; an
instance passed with no live worker is settled, and so is its host; no other host
changes; and the dispatcher leaves its loop only at its end, returning the aggregate of
the instances. -/
structure Pool.Agrees (P : Pass Targets) (t₀ : Targets) (dbs : List DbInstance) (p : Pool Targets) : Prop where
  faults : p.env.faults = []
  hosts : hostnames p.dbs = hostnames dbs
  ahead : ∀ (n : Nat) (d : DbInstance), p.index ≤ n → dbs[n]? = some d →
    p.dbs[n]? = some d ∧ p.env.password d.hostname = t₀.password d.hostname
  live : ∀ w ∈ p.workers, ∀ d, dbs[w.dbNo]? = some d → p.dbs[w.dbNo]? = some d ∧
    atHost d.hostname (P.finishPc d.hostname w.pc p.env) = atHost d.hostname (P.alone t₀ d)
  settled : ∀ (n : Nat) (d : DbInstance), n < p.index → n ∉ p.workers.map (·.dbNo) → dbs[n]? = some d →
    p.dbs[n]? = some (P.settledDb t₀ d) ∧ p.env.password d.hostname = P.settledPassword t₀ d
  frame : ∀ h, h ∉ hostnames dbs → p.env.password h = t₀.password h
  draining : ∀ c, p.disp = .draining c → c = false ∧ p.dbs.length ≤ p.index
  returned : ∀ e, p.disp = .returned e → p.dbs.length ≤ p.index ∧ e = aggregate P.action p.dbs

theorem exists_of_hostnames {l l' : List DbInstance} (h : hostnames l = hostnames l') {n : Nat}
    {d : DbInstance} (hn : l[n]? = some d) : ∃ d₀, l'[n]? = some d₀ ∧ d₀.hostname = d.hostname := by
  have : (hostnames l')[n]? = some d.hostname := by rw [← h]; simp [hostnames, hn]
  simpa [hostnames] using this

theorem Pool.Agrees.length {P : Pass Targets} {t₀ : Targets} {dbs : List DbInstance} {p : Pool Targets}
    (ha : p.Agrees P t₀ dbs) : p.dbs.length = dbs.length := by
  simpa [hostnames] using congrArg List.length ha.hosts

section Agrees

variable {P : Pass Targets} (hcl : P.env.client = Targets.client) (hd : ∀ s, P.env.done s = false)
  (hsl : P.env.sleep = id) {t₀ : Targets} {dbs : List DbInstance} (hnd : (hostnames dbs).Nodup)

theorem Pool.agrees_start (ht₀ : t₀.faults = []) (K : Nat) : (Pool.start K dbs t₀).Agrees P t₀ dbs :=
  ⟨ht₀, rfl, fun _ _ _ hd => ⟨hd, rfl⟩, by simp [Pool.start], fun _ _ h => absurd h (Nat.not_lt_zero _),
    fun _ _ => rfl, by simp [Pool.start], by simp [Pool.start]⟩

theorem Pool.Agrees.exit {p : Pool Targets} (hw : p.Wf P) (ha : p.Agrees P t₀ dbs) {i : Nat} {w : Worker}
    {o : Outcome} (h1 : p.workers[i]? = some w) (h2 : w.pc = .exit o) :
    Pool.Agrees P t₀ dbs { p with
      dbs := p.dbs.modify (record P.action o) w.dbNo, tokens := p.tokens + 1,
      workers := p.workers.eraseIdx i } := by
  have hwm := List.getElem?_mem h1
  obtain ⟨d, hd, hsk⟩ := hw.workers_at w hwm
  obtain ⟨d₀, hd₀, -⟩ := exists_of_hostnames ha.hosts hd
  obtain ⟨hpd, hat⟩ := ha.live w hwm d₀ hd₀
  obtain rfl : d = d₀ := Option.some.inj (hd.symm.trans hpd)
  simp only [h2, Pass.finishPc, atHost, Prod.mk.injEq] at hat
  obtain ⟨rfl, hpw⟩ := hat
  have hkeep : ∀ n, n ≠ w.dbNo → (p.dbs.modify (record P.action (P.alone t₀ d).1) w.dbNo)[n]? = p.dbs[n]? :=
    fun n hn => List.getElem?_modify_ne _ _ (Ne.symm hn)
  refine ⟨ha.faults, by simpa using ha.hosts, fun n d' hn hd' => ?_, fun x hx d' hd' => ?_,
    fun n d' hn hnw hd' => ?_, ha.frame, fun c hc => by simpa using ha.draining c hc,
    fun e he => absurd (hw.drained e he) (List.ne_nil_of_mem hwm)⟩
  · have hn : p.index ≤ n := hn
    rw [hkeep n (by have := hw.workers_lt w hwm; omega)]
    exact ha.ahead n d' hn hd'
  · obtain ⟨hx', hx⟩ := (mem_eraseIdx_worker hw.workers_nodup h1 x).mp hx
    rw [hkeep _ hx']
    exact ha.live x hx d' hd'
  · by_cases hn' : n = w.dbNo
    · subst hn'
      obtain rfl : d = d' := Option.some.inj (hd₀.symm.trans hd')
      simp [hd, hpw, Pass.settledDb, Pass.settledPassword, hsk]
    · rw [hkeep n hn']
      exact ha.settled n d' hn (fun h => hnw (dbNo_mem_eraseIdx hw.workers_nodup h1 h hn')) hd'

include hcl hd hsl hnd

theorem Pool.Agrees.work {p : Pool Targets} (hw : p.Wf P) (ha : p.Agrees P t₀ dbs) {i : Nat} {w : Worker}
    {d : DbInstance} {pc : Pc} {s : Targets} (h1 : p.workers[i]? = some w) (h2 : p.dbs[w.dbNo]? = some d)
    (h3 : P.advance d.hostname w.pc p.env = some (pc, s)) :
    Pool.Agrees P t₀ dbs { p with env := s, workers := p.workers.set i ⟨w.dbNo, pc⟩ } := by
  have hwm := List.getElem?_mem h1
  obtain ⟨d₀, hd₀, -⟩ := exists_of_hostnames ha.hosts h2
  obtain ⟨hpd, hat⟩ := ha.live w hwm d₀ hd₀
  obtain rfl : d = d₀ := Option.some.inj (h2.symm.trans hpd)
  have hs := P.advance_frame hcl hsl h3 ha.faults
  have hsf : s.faults = [] := by rw [hs]; exact ha.faults
  have hne : ∀ n d', dbs[n]? = some d' → n ≠ w.dbNo → s.password d'.hostname = p.env.password d'.hostname :=
    fun n d' hd' hn => by rw [hs]; simp [hostname_ne hnd hd' hd₀ hn]
  refine ⟨hsf, ha.hosts, fun n d' hn hd' => ?_, fun x hx d' hd' => ?_, fun n d' hn hnw hd' => ?_,
    fun h hh => ?_, ha.draining, ha.returned⟩
  · obtain ⟨h1', h2'⟩ := ha.ahead n d' hn hd'
    have hn : p.index ≤ n := hn
    exact ⟨h1', (hne n d' hd' (by have := hw.workers_lt w hwm; omega)).trans h2'⟩
  · rcases (mem_set_worker hw.workers_nodup h1 pc x).mp hx with rfl | ⟨hx', hx⟩
    · obtain rfl : d' = d := Option.some.inj (hd'.symm.trans hd₀)
      exact ⟨hpd, by rw [Pass.finishPc_advance h3]; exact hat⟩
    · obtain ⟨h1', h2'⟩ := ha.live x hx d' hd'
      exact ⟨h1', ((onHost_finishPc hcl hd hsl _ _).congr _ _ hsf ha.faults (hne _ d' hd' hx')).trans h2'⟩
  · have hn' : n ≠ w.dbNo := fun h => hnw (by rw [map_dbNo_set h1, h]; exact List.mem_map_of_mem _ hwm)
    obtain ⟨h1', h2'⟩ := ha.settled n d' hn (by rwa [map_dbNo_set h1] at hnw) hd'
    exact ⟨h1', (hne n d' hd' hn').trans h2'⟩
  · have : h ≠ d.hostname := fun he => hh (he ▸ List.mem_map_of_mem _ (List.getElem?_mem hd₀))
    rw [hs]; simp [this, ha.frame h hh]

theorem Pass.Step.agrees (ht₀ : t₀.faults = []) {p q : Pool Targets} (h : P.Step p q) (hw : p.Wf P)
    (ha : p.Agrees P t₀ dbs) : q.Agrees P t₀ dbs := by
  obtain ⟨hf, hh, hah, hli, hse, hfr, hdr, hre⟩ := ha
  cases h with
  | recv => exact ⟨hf, hh, hah, hli, hse, hfr, by simp, by simp⟩
  | ctxDone _ _ h3 => simp [hd] at h3
  | loopEnd _ h2 => exact ⟨hf, hh, hah, hli, hse, hfr, fun c hc => ⟨by simpa using hc.symm, h2⟩, by simp⟩
  | skip d' _ h2 h3 =>
    refine ⟨hf, hh, fun n d hn hd => hah n d (Nat.le_of_succ_le hn) hd, hli, fun n d hn hnw hd => ?_, hfr,
      by simp, by simp⟩
    rcases Nat.lt_succ_iff_lt_or_eq.mp hn with hn | rfl
    · exact hse n d hn hnw hd
    · obtain ⟨hpd, hpw⟩ := hah _ d le_rfl hd
      obtain rfl : d' = d := Option.some.inj (h2.symm.trans hpd)
      simp [Pass.settledDb, Pass.settledPassword, h3, h2, hpw]
  | spawn d' _ _ _ =>
    refine ⟨hf, hh, fun n d hn hd => hah n d (Nat.le_of_succ_le hn) hd, ?_, fun n d hn hnw hd => ?_, hfr,
      by simp, by simp⟩
    · simp only [List.mem_cons, forall_eq_or_imp]
      refine ⟨fun d hdb => ?_, hli⟩
      obtain ⟨hpd, hpw⟩ := hah _ d le_rfl hdb
      refine ⟨hpd, ((onHost_finishPc hcl hd hsl _ _).congr _ _ hf ht₀ hpw).trans ?_⟩
      rw [Pass.finishPc_call_one]; rfl
    · simp only [List.map_cons, List.mem_cons, not_or] at hnw
      exact hse n d (by have := Nat.lt_succ_iff_lt_or_eq.mp hn; omega) hnw.2 hd
  | work i w d pc s h1 h2 h3 =>
    exact Pool.Agrees.work hcl hd hsl hnd hw ⟨hf, hh, hah, hli, hse, hfr, hdr, hre⟩ h1 h2 h3
  | exit i w o h1 h2 => exact Pool.Agrees.exit hw ⟨hf, hh, hah, hli, hse, hfr, hdr, hre⟩ h1 h2
  | finish c h1 h2 =>
    refine ⟨hf, hh, hah, hli, hse, hfr, by simp, fun e he => ?_⟩
    obtain ⟨rfl, hlen⟩ := hdr c h1
    simp only [Dispatcher.returned.injEq, Bool.false_eq_true, if_false] at he
    exact ⟨hlen, he.symm⟩

theorem Pass.reach_agrees (ht₀ : t₀.faults = []) {K : Nat} {q : Pool Targets}
    (h : ReflTransGen P.Step (Pool.start K dbs t₀) q) : q.Agrees P t₀ dbs := by
  induction h with
  | refl => exact Pool.agrees_start ht₀ K
  | tail hr hs ih => exact hs.agrees hcl hd hsl hnd ht₀ (Pass.reach_wf hr) ih

theorem Pass.returns_alone (ht₀ : t₀.faults = []) {K : Nat} {dbs' : List DbInstance} {e : Option Error}
    {t : Targets} (h : P.Returns K dbs t₀ dbs' e t) :
    dbs' = dbs.map (P.settledDb t₀) ∧ e = aggregate P.action (dbs.map (P.settledDb t₀)) ∧ t.faults = [] ∧
      (∀ d ∈ dbs, t.password d.hostname = P.settledPassword t₀ d) ∧
      ∀ h, h ∉ hostnames dbs → t.password h = t₀.password h := by
  obtain ⟨q, hq, hr, rfl, rfl⟩ := h
  have ha := Pass.reach_agrees hcl hd hsl hnd ht₀ hq
  have hnw := (Pass.reach_wf hq).drained _ hr
  obtain ⟨hend, rfl⟩ := ha.returned _ hr
  have hall : ∀ n d, dbs[n]? = some d →
      q.dbs[n]? = some (P.settledDb t₀ d) ∧ q.env.password d.hostname = P.settledPassword t₀ d :=
    fun n d hd => ha.settled n d (lt_of_lt_of_le (List.getElem?_eq_some_iff.mp hd).1 (ha.length ▸ hend))
      (by simp [hnw]) hd
  have hdbs : q.dbs = dbs.map (P.settledDb t₀) := by
    refine List.ext_getElem? fun n => ?_
    rw [List.getElem?_map]
    cases hd : dbs[n]? with
    | none => simpa [ha.length] using hd
    | some d => simp [(hall n d hd).1]
  refine ⟨hdbs, by rw [hdbs], ha.faults, fun d hd => ?_, ha.frame⟩
  obtain ⟨n, hn⟩ := List.mem_iff_getElem?.mp hd
  exact (hall n d hn).2

end Agrees

/-- With any number of tokens in the channel, over distinct hosts, on a network that
faults no call and with a context that is never cancelled, every schedule of `setAll`'s
goroutines returns exactly what the sequential `setAll` computes: the instances with
their flags and errors, the error, and the servers. -/
theorem Pass.returns_parallel (P : Pass Targets) (hP : P.env = Targets.env) {K : Nat} (hK : 0 < K)
    (dbs : List DbInstance) (hnd : (hostnames dbs).Nodup) (t : Targets) (ht : t.faults = [])
    {dbs' : List DbInstance} {e : Option Error} {t' : Targets} :
    P.Returns K dbs t dbs' e t' ↔ setAll P.tries P.action P.env P.creds dbs t = (dbs', e, t') := by
  have hcl : P.env.client = Targets.client := by rw [hP]; rfl
  have hd : ∀ s, P.env.done s = false := by rw [hP]; exact fun _ => rfl
  have hsl : P.env.sleep = id := by rw [hP]; rfl
  refine ⟨fun h => ?_, P.returns_setAll hK⟩
  rcases hs : setAll P.tries P.action P.env P.creds dbs t with ⟨dbs₁, e₁, t₁⟩
  obtain ⟨h1, h2, h3, h4, h5⟩ := Pass.returns_alone hcl hd hsl hnd ht h
  obtain ⟨h1', h2', h3', h4', h5'⟩ := Pass.returns_alone hcl hd hsl hnd ht (P.returns_setAll hK hs)
  have ht' : t₁ = t' := Targets.ext_password (fun x => ?_) (h3'.trans h3.symm)
  · rw [h1, h1', h2, h2', ht']
  · by_cases hx : x ∈ hostnames dbs
    · obtain ⟨d, hd', rfl⟩ := List.mem_map.mp hx
      rw [h4' d hd', h4 d hd']
    · rw [h5' x hx, h5 x hx]

theorem returns_parallel_twoHosts :
    let P : Pass Targets := ⟨1, .setPassword, Targets.env, sampleCreds⟩
    let dbs : List DbInstance := [{ hostname := "db1" }, { hostname := "db2" }]
    let t : Targets := ⟨fun h => if h = "db1" then "old" else "other", []⟩
    let r := setAll P.tries P.action P.env P.creds dbs t
    P.env = Targets.env ∧ 0 < 2 ∧ (hostnames dbs).Nodup ∧ t.faults = [] ∧
      (P.Returns 2 dbs t r.1 r.2.1 r.2.2 ↔ setAll P.tries P.action P.env P.creds dbs t = (r.1, r.2.1, r.2.2)) :=
  ⟨rfl, by decide, by decide, rfl, Pass.returns_parallel _ rfl (by decide) _ (by decide) _ rfl⟩

/-! ### `SetPassword`, then `VerifyPassword` -/

theorem verify_after_setPassword_targets (m : PasswordSetter) (creds : NewPassword) (done : Targets → Bool)
    {t t₁ t₂ : Targets} {dbs₁ dbs₂ : List DbInstance} {e₂ : Option Error} (hnd : (hostnames m.dbs).Nodup)
    (htries : 0 < m.tries.toNat) (hnp : Fault.panic ∉ t.faults)
    (h₁ : (m.pass .setPassword (Targets.envWith done) creds).Returns m.maxParallel (m.passDbs .setPassword) t
      dbs₁ none t₁)
    (hf : t₁.faults = [])
    (h₂ : (m.pass .verifyPassword Targets.env creds).Returns m.maxParallel dbs₁ t₁ dbs₂ e₂ t₂) :
    e₂ = none ∧ t₂ = t₁ := by
  have hall := Pass.returns_nil_installs rfl rfl (by simp) (hostnames_passDbs_set m ▸ hnd)
    (by simp [PasswordSetter.passDbs, DbInstance.succeeded]) hnp h₁
  obtain ⟨q₁, hq₁, -, rfl, rfl⟩ := h₁
  have hh₁ : hostnames q₁.dbs = hostnames m.dbs := (Pass.reach_hostnames hq₁).trans (hostnames_passDbs_set m)
  have hve : ∀ d ∈ q₁.dbs, d.verifyError = none := by
    have hmap := @Pass.reach_map_dbs _ _ (m.pass .setPassword (Targets.envWith done) creds) DbInstance.verifyError
      (fun o d => by rcases o with (_ | _) | _ <;> rfl) _ _ hq₁
    intro d hd
    have := List.mem_map_of_mem DbInstance.verifyError hd
    simp only [hmap, Pool.start, PasswordSetter.passDbs, List.map_map, List.mem_map, Function.comp_def] at this
    exact this.elim fun _ h => h.2.symm
  -- every verify call, alone on the servers `SetPassword` left, logs in with the new password
  have halone : ∀ d ∈ q₁.dbs,
      (m.pass .verifyPassword Targets.env creds).alone q₁.env d = (.returned none, q₁.env) := by
    intro d hd
    obtain ⟨n, hn⟩ : ∃ n, m.tries.toNat = n + 1 := ⟨_, (Nat.succ_pred_eq_of_pos htries).symm⟩
    have hp := (hall d hd (by simp [skips])).1
    simp only [PasswordSetter.pass_creds] at hp
    simp [Pass.alone, setOne, PasswordSetter.pass, hn, setOneLoop, Env.call, Targets.env, Targets.client,
      Targets.call_of_faults_nil hf, stamp, hp]
  obtain ⟨rfl, rfl, h3, h4, h5⟩ := Pass.returns_alone rfl (fun _ => rfl) rfl (hh₁ ▸ hnd) hf h₂
  refine ⟨aggregate_eq_none.mpr ?_, Targets.ext_password (fun x => ?_) (h3.trans hf.symm)⟩
  · simp only [errCount, List.length_eq_zero, List.filter_eq_nil_iff, List.mem_map]
    rintro _ ⟨d, hd, rfl⟩
    simp [Pass.settledDb, skips, halone d hd, record, DbInstance.error, hve d hd]
  · by_cases hx : x ∈ hostnames q₁.dbs
    · obtain ⟨d, hd, rfl⟩ := List.mem_map.mp hx
      simp [h4 d hd, Pass.settledPassword, skips, halone d hd]
    · exact h5 x hx

end PasswordRotation.Mysql

import PasswordRotation.Mysql.Schedule
import PasswordRotation.Mysql.Snapshot

/-! What the goroutines of a pass do to the servers over `Targets`, in every schedule and
whatever the network faults. -/
namespace PasswordRotation.Mysql
open Relation

variable {σ : Type}

theorem getElem?_modify_some {α : Type} {f : α → α} {l : List α} {k n : Nat} {x : α}
    (h : (l.modify f k)[n]? = some x) : ∃ y, l[n]? = some y ∧ x = if k = n then f y else y := by
  rw [List.getElem?_modify] at h
  cases hy : l[n]? with
  | none => simp [hy] at h
  | some y => simp only [hy, Option.map_eq_map, Option.map_some', Option.some.injEq] at h; exact ⟨y, rfl, h.symm⟩

theorem map_modify_record {β : Type} (f : DbInstance → β) {a : Action} (hf : ∀ o d, f (record a o d) = f d)
    (o : Outcome) (dbs : List DbInstance) (n : Nat) : (dbs.modify (record a o) n).map f = dbs.map f := by
  induction dbs generalizing n with
  | nil => simp
  | cons d ds ih => cases n <;> simp_all

theorem Pass.reach_map_dbs {β : Type} {P : Pass σ} (f : DbInstance → β)
    (hf : ∀ o d, f (record P.action o d) = f d) {p q : Pool σ} (h : ReflTransGen P.Step p q) :
    q.dbs.map f = p.dbs.map f := by
  induction h with
  | refl => rfl
  | tail _ hs ih => rw [← ih]; cases hs <;> first | rfl | exact map_modify_record f hf _ _ _

theorem hostname_ne {dbs : List DbInstance} (hnd : (hostnames dbs).Nodup) {n m : Nat} {d d' : DbInstance}
    (hn : dbs[n]? = some d) (hm : dbs[m]? = some d') (h : n ≠ m) : d.hostname ≠ d'.hostname := fun he =>
  h (List.getElem?_inj (by simpa [hostnames] using (List.getElem?_eq_some_iff.mp hn).1) hnd
    (by simp [hostnames, List.getElem?_map, hn, hm, he]))

theorem mem_hostnames {dbs : List DbInstance} {n : Nat} {d : DbInstance} (hn : dbs[n]? = some d) :
    d.hostname ∈ hostnames dbs :=
  List.mem_map_of_mem _ (List.getElem?_mem hn)

/-! ### One call on the servers -/

@[simp] theorem Targets.next_password (t : Targets) : t.next.2.password = t.password := by
  unfold Targets.next; split <;> rfl

@[simp] theorem Targets.next_faults (t : Targets) : t.next.2.faults = t.faults.tail := by
  unfold Targets.next; split <;> simp_all

theorem Targets.next_ne_panic {t : Targets} (h : Fault.panic ∉ t.faults) : t.next.1 ≠ .panic := by
  unfold Targets.next
  split
  · simp
  · simp_all [eq_comm]

theorem Targets.call_cases (t : Targets) (login : Credentials) (change : Targets → Targets) :
    ((t.call login change).1 = .returned none ∧ t.password login.hostname = login.password ∧
        (t.call login change).2 = change t.next.2) ∨
      ((t.call login change).1 ≠ .returned none ∧ (t.call login change).2 = t.next.2) := by
  unfold Targets.call
  rcases h : t.next with ⟨f, t₁⟩
  have hp : t₁.password = t.password := by rw [← Targets.next_password t, h]
  rcases f with _ | e | _
  · by_cases hl : t.password login.hostname = login.password <;> simp [hl, hp]
  · simp
  · simp

theorem Targets.call_ne_panicked {t : Targets} (h : Fault.panic ∉ t.faults) (login : Credentials)
    (change : Targets → Targets) : (t.call login change).1 ≠ .panicked := by
  have := Targets.next_ne_panic h
  unfold Targets.call
  rcases hn : t.next with ⟨_ | e | _, t₁⟩ <;> rw [hn] at this
  · simp only; split_ifs <;> simp
  · simp
  · exact absurd rfl this

def Targets.envWith (done : Targets → Bool) : Env Targets := ⟨Targets.client, done, id⟩

theorem Targets.call_of_client {env : Env Targets} (hc : env.client = Targets.client) (a : Action)
    (creds : NewPassword) (t : Targets) :
    env.call a creds t = if a = .verifyPassword then t.call creds.new id
      else t.call creds.current fun t => t.update creds.current.hostname creds.new.password := by
  cases a <;> simp [Env.call, hc, Targets.client]

theorem Targets.call_faults (t : Targets) (login : Credentials) {change : Targets → Targets}
    (hc : ∀ u, (change u).faults = u.faults) : (t.call login change).2.faults = t.faults.tail := by
  rcases Targets.call_cases t login change with ⟨-, -, h⟩ | ⟨-, h⟩ <;> simp [h, hc]

theorem Targets.call_faults_of_client {env : Env Targets} (hc : env.client = Targets.client) (a : Action)
    (creds : NewPassword) (t : Targets) : (env.call a creds t).2.faults = t.faults.tail := by
  rw [Targets.call_of_client hc]
  split_ifs <;> exact Targets.call_faults _ _ fun _ => rfl

theorem Pass.advance_quiet {P : Pass Targets} (hsl : P.env.sleep = id) {pc' : Pc} {t t' : Targets}
    (hs : t' = t ∨ t' = P.env.sleep t) (hpc : ∀ o, pc' = .exit o → ∃ e, o = .returned (some e)) :
    t' = t ∧ pc' ≠ .exit (.returned none) ∧ pc' ≠ .exit .panicked := by
  refine ⟨by rcases hs with rfl | rfl <;> simp [hsl], fun h => ?_, fun h => ?_⟩ <;>
    obtain ⟨e, he⟩ := hpc _ h <;> cases he

section Servers

variable {P : Pass Targets} (hcl : P.env.client = Targets.client) (hsl : P.env.sleep = id)
include hcl hsl

theorem Pass.advance_servers (ha : P.action ≠ .verifyPassword) {host : String} {pc pc' : Pc}
    {t t' : Targets} (h : P.advance host pc t = some (pc', t')) :
    (pc' = .exit (.returned none) ∧ t.password host = P.creds.current.password ∧
        t'.password = (t.update host P.creds.new.password).password) ∨
      (pc' ≠ .exit (.returned none) ∧ t'.password = t.password) := by
  have hcall : P.env.call P.action (stamp P.creds host) t =
      t.call { P.creds.current with hostname := host } fun t => t.update host P.creds.new.password := by
    rw [Targets.call_of_client hcl, if_neg ha]; rfl
  rcases P.advance_cases h with ⟨rfl, hpc⟩ | ⟨hs, hpc⟩
  · rw [hcall] at hpc ⊢
    rcases Targets.call_cases t { P.creds.current with hostname := host }
      (fun t => t.update host P.creds.new.password) with ⟨h1, h2, h3⟩ | ⟨h1, h3⟩
    · rcases hpc with rfl | ⟨k, e, -, he⟩
      · exact .inl ⟨by rw [h1], h2, by rw [h3]; funext; simp [Targets.update]⟩
      · simp [h1] at he
    · refine .inr ⟨?_, by rw [h3]; simp⟩
      rcases hpc with rfl | ⟨k, e, rfl, -⟩
      · simpa using h1
      · simp
  · obtain ⟨rfl, hn, -⟩ := Pass.advance_quiet hsl hs hpc
    exact .inr ⟨hn, rfl⟩

theorem Pass.advance_unpanicked {host : String} {pc pc' : Pc} {t t' : Targets}
    (hnp : Fault.panic ∉ t.faults) (h : P.advance host pc t = some (pc', t')) :
    pc' ≠ .exit .panicked ∧ Fault.panic ∉ t'.faults := by
  rcases P.advance_cases h with ⟨rfl, hpc⟩ | ⟨hs, hpc⟩
  · refine ⟨?_, by rw [Targets.call_faults_of_client hcl]; exact fun h' => hnp (List.mem_of_mem_tail h')⟩
    rcases hpc with rfl | ⟨k, e, rfl, -⟩
    · have := fun l c => Targets.call_ne_panicked hnp l c
      rw [Targets.call_of_client hcl]; split_ifs <;> simpa using this _ _
    · simp
  · obtain ⟨rfl, -, hn⟩ := Pass.advance_quiet hsl hs hpc
    exact ⟨hn, hnp⟩

theorem Pass.advance_verify (ha : P.action = .verifyPassword) {host : String} {pc pc' : Pc} {t t' : Targets}
    (h : P.advance host pc t = some (pc', t')) :
    t'.password = t.password ∧ (pc' = .exit (.returned none) → t.password host = P.creds.new.password) := by
  have hcall : P.env.call P.action (stamp P.creds host) t = t.call { P.creds.new with hostname := host } id := by
    rw [Targets.call_of_client hcl, if_pos ha]; rfl
  rcases P.advance_cases h with ⟨rfl, hpc⟩ | ⟨hs, hpc⟩
  · rw [hcall] at hpc ⊢
    rcases Targets.call_cases t { P.creds.new with hostname := host } id with ⟨h1, h2, h3⟩ | ⟨h1, h3⟩
    · exact ⟨by rw [h3]; simp, fun _ => h2⟩
    · refine ⟨by rw [h3]; simp, fun hx => ?_⟩
      rcases hpc with rfl | ⟨k, e, rfl, -⟩
      · exact absurd (Pc.exit.inj hx) h1
      · cases hx
  · obtain ⟨rfl, hn, -⟩ := Pass.advance_quiet hsl hs hpc
    exact ⟨rfl, fun h => absurd h hn⟩

end Servers

/-! ### Which calls have gone through -/

def DbInstance.succeeded (d : DbInstance) : Action → Bool
  | .setPassword => d.set
  | .verifyPassword => d.verified
  | .rollbackPassword => d.rolledBack

@[simp] theorem succeeded_record (a : Action) (o : Outcome) (d : DbInstance) :
    (record a o d).succeeded a = (decide (o = .returned none) || d.succeeded a) := by
  rcases o with (_ | _) | _ <;> cases a <;> simp [record, DbInstance.succeeded]

theorem record_settles {a : Action} {o : Outcome} (ho : o ≠ .panicked) (d : DbInstance) :
    (record a o d).succeeded a = true ∨ ((record a o d).error a).isSome = true := by
  rcases o with (_ | _) | _ <;> cases a <;> simp_all [record, DbInstance.succeeded, DbInstance.error]

def through (ws : List Worker) (a : Action) (n : Nat) (d : DbInstance) : Bool :=
  d.succeeded a || decide (⟨n, .exit (.returned none)⟩ ∈ ws)

section Through

variable {ws : List Worker} {i : Nat} {w : Worker} (hnd : (ws.map (·.dbNo)).Nodup) (hi : ws[i]? = some w)
include hnd hi

theorem worker_eq_of_dbNo {x : Worker} (hx : x ∈ ws) (h : x.dbNo = w.dbNo) : x = w := by
  obtain ⟨j, hj, rfl⟩ := List.mem_iff_getElem.mp hx
  by_cases hji : j = i
  · subst hji; simpa [hj] using hi
  · exact absurd h ((mem_eraseIdx_worker hnd hi _).mp (List.mem_eraseIdx_iff_getElem.mpr ⟨j, hj, hji, rfl⟩)).1

theorem through_self (a : Action) (d : DbInstance) :
    through ws a w.dbNo d = (d.succeeded a || decide (w.pc = .exit (.returned none))) := by
  have : (⟨w.dbNo, .exit (.returned none)⟩ : Worker) ∈ ws ↔ w.pc = .exit (.returned none) :=
    ⟨fun hx => by rw [← worker_eq_of_dbNo hnd hi hx rfl], fun h => by rw [← h]; exact List.getElem?_mem hi⟩
  simp [through, this]

theorem through_set (pc : Pc) (a : Action) (n : Nat) (d : DbInstance) :
    through (ws.set i ⟨w.dbNo, pc⟩) a n d =
      if n = w.dbNo then (d.succeeded a || decide (pc = .exit (.returned none))) else through ws a n d := by
  simp only [through, mem_set_worker hnd hi]
  split_ifs with hn
  · subst hn; simp [eq_comm]
  · simp [hn]

theorem through_eraseIdx (a : Action) (n : Nat) (d : DbInstance) :
    through (ws.eraseIdx i) a n d = if n = w.dbNo then d.succeeded a else through ws a n d := by
  simp only [through, mem_eraseIdx_worker hnd hi]
  split_ifs with hn <;> simp [hn]

end Through

/-! ### What a set or rollback pass keeps on the servers -/

/-- What a pass keeps on the servers, from the servers `t₀` it started on: distinct hosts,
no flag on an instance the dispatcher skips, and for each instance, its server holds the
new password if its call has gone through, after accepting the current password, and the
password it started with otherwise; no other server changes. -/
structure Pool.Tracks (P : Pass Targets) (t₀ : Targets) (p : Pool Targets) : Prop where
  nodup : (hostnames p.dbs).Nodup
  skipped : ∀ (n : Nat) (d : DbInstance), p.dbs[n]? = some d → skips P.action d = true →
    d.succeeded P.action = false
  login : ∀ (n : Nat) (d : DbInstance), p.dbs[n]? = some d → through p.workers P.action n d = true →
    t₀.password d.hostname = P.creds.current.password
  password : ∀ (n : Nat) (d : DbInstance), p.dbs[n]? = some d → p.env.password d.hostname =
    if through p.workers P.action n d then P.creds.new.password else t₀.password d.hostname
  frame : ∀ h, h ∉ hostnames p.dbs → p.env.password h = t₀.password h

theorem Pool.tracks_start {P : Pass Targets} (K : Nat) {dbs : List DbInstance} (t₀ : Targets)
    (hnd : (hostnames dbs).Nodup) (hflags : ∀ d ∈ dbs, d.succeeded P.action = false) :
    (Pool.start K dbs t₀).Tracks P t₀ := by
  have hthr : ∀ n d, dbs[n]? = some d → through [] P.action n d = false := fun n d hd => by
    simp [through, hflags d (List.getElem?_mem hd)]
  exact ⟨hnd, fun n d hd _ => hflags d (List.getElem?_mem hd),
    fun n d hd h => by simp [Pool.start, hthr n d hd] at h, fun n d hd => by simp [Pool.start, hthr n d hd],
    fun _ _ => rfl⟩

theorem Pool.Tracks.exit {P : Pass Targets} {t₀ : Targets} {p : Pool Targets} (hw : p.Wf P)
    (ht : p.Tracks P t₀) {i : Nat} {w : Worker} {o : Outcome} (h1 : p.workers[i]? = some w) (h2 : w.pc = .exit o) :
    Pool.Tracks P t₀ { p with
      dbs := p.dbs.modify (record P.action o) w.dbNo, tokens := p.tokens + 1,
      workers := p.workers.eraseIdx i } := by
  have hnd := hw.workers_nodup
  have key : ∀ n d', (p.dbs.modify (record P.action o) w.dbNo)[n]? = some d' → ∃ d, p.dbs[n]? = some d ∧
      d'.hostname = d.hostname ∧ through (p.workers.eraseIdx i) P.action n d' = through p.workers P.action n d ∧
      (skips P.action d' = true → d' = d) := by
    intro n d' hd'
    obtain ⟨d, hd, rfl⟩ := getElem?_modify_some hd'
    refine ⟨d, hd, ?_⟩
    rw [through_eraseIdx hnd h1]
    by_cases hn : w.dbNo = n
    · subst hn
      obtain ⟨d₀, hd₀, hs₀⟩ := hw.workers_at w (List.getElem?_mem h1)
      rw [hd] at hd₀; cases hd₀
      simp [through_self hnd h1, h2, Bool.or_comm, hs₀]
    · simp [hn, Ne.symm hn]
  refine ⟨by simpa using ht.nodup, fun n d' hd' hs => ?_, fun n d' hd' h => ?_, fun n d' hd' => ?_,
    fun h hh => ht.frame h (by simpa using hh)⟩
  · obtain ⟨d, hd, -, -, hsk⟩ := key n d' hd'
    obtain rfl := hsk hs
    exact ht.skipped n _ hd hs
  · obtain ⟨d, hd, hh, hthr, -⟩ := key n d' hd'
    rw [hh]
    exact ht.login n d hd (by rwa [hthr] at h)
  · obtain ⟨d, hd, hh, hthr, -⟩ := key n d' hd'
    rw [hh, hthr]
    exact ht.password n d hd

section Tracks

variable {P : Pass Targets} (hcl : P.env.client = Targets.client) (hsl : P.env.sleep = id)
  (ha : P.action ≠ .verifyPassword) {t₀ : Targets}
include hcl hsl ha

theorem Pool.Tracks.work {p : Pool Targets} (hw : p.Wf P) (ht : p.Tracks P t₀) {i : Nat} {w : Worker}
    {d : DbInstance} {pc : Pc} {s : Targets} (h1 : p.workers[i]? = some w) (h2 : p.dbs[w.dbNo]? = some d)
    (h3 : P.advance d.hostname w.pc p.env = some (pc, s)) :
    Pool.Tracks P t₀ { p with env := s, workers := p.workers.set i ⟨w.dbNo, pc⟩ } := by
  have hnd := hw.workers_nodup
  have hpc : w.pc ≠ .exit (.returned none) := fun ho => by simp [ho, Pass.advance] at h3
  have hbefore : through p.workers P.action w.dbNo d = d.succeeded P.action := by
    simp [through_self hnd h1, hpc]
  rcases P.advance_servers hcl hsl ha h3 with ⟨rfl, hlog, hs⟩ | ⟨hpc', hs⟩
  · have hthr : ∀ n d', through (p.workers.set i ⟨w.dbNo, .exit (.returned none)⟩) P.action n d' =
        (decide (n = w.dbNo) || through p.workers P.action n d') := fun n d' => by
      rw [through_set hnd h1]; split_ifs <;> simp_all
    refine ⟨ht.nodup, ht.skipped, fun n d' hd' hn => ?_, fun n d' hd' => ?_, fun h hh => ?_⟩
    · by_cases hn' : n = w.dbNo
      · subst hn'
        rw [h2] at hd'; cases hd'
        cases hf : d.succeeded P.action
        · have := ht.password _ _ h2
          simp only [hbefore, hf, Bool.false_eq_true, if_false] at this
          rw [← this, hlog]
        · exact ht.login _ _ h2 (by rw [hbefore, hf])
      · simp only [hthr, hn', decide_False, Bool.false_or] at hn
        exact ht.login n d' hd' hn
    · simp only [hs, Targets.update, hthr]
      by_cases hn' : n = w.dbNo
      · subst hn'; rw [h2] at hd'; cases hd'; simp
      · simp [hostname_ne ht.nodup hd' h2 hn', hn', ht.password n d' hd']
    · have : h ≠ d.hostname := fun he => hh (he ▸ mem_hostnames h2)
      simp [hs, Targets.update, this, ht.frame h hh]
  · have hthr : ∀ n d', through (p.workers.set i ⟨w.dbNo, pc⟩) P.action n d' = through p.workers P.action n d' :=
      fun n d' => by
        rw [through_set hnd h1]
        split_ifs with hn
        · subst hn; simp [through_self hnd h1, hpc, hpc']
        · rfl
    refine ⟨ht.nodup, ht.skipped, fun n d' hd' hn => ht.login n d' hd' (by rwa [hthr] at hn),
      fun n d' hd' => ?_, fun h hh => ?_⟩
    · simp only [hs, hthr]; exact ht.password n d' hd'
    · simp only [hs]; exact ht.frame h hh

theorem Pass.Step.tracks {p q : Pool Targets} (h : P.Step p q) (hw : p.Wf P) (ht : p.Tracks P t₀) :
    q.Tracks P t₀ := by
  cases h
  case spawn =>
    have hthr : ∀ n d, through (⟨p.index, .call 1⟩ :: p.workers) P.action n d = through p.workers P.action n d := by
      simp [through]
    exact ⟨ht.nodup, ht.skipped, fun n d hd h => ht.login n d hd (by rwa [hthr] at h),
      fun n d hd => by rw [hthr]; exact ht.password n d hd, ht.frame⟩
  case work i w d pc s h1 h2 h3 => exact ht.work hcl hsl ha hw h1 h2 h3
  case exit i w o h1 h2 => exact ht.exit hw h1 h2
  all_goals exact ⟨ht.nodup, ht.skipped, ht.login, ht.password, ht.frame⟩

theorem Pass.reach_tracks {K : Nat} {dbs : List DbInstance} (hnd : (hostnames dbs).Nodup)
    (hflags : ∀ d ∈ dbs, d.succeeded P.action = false) {q : Pool Targets}
    (h : ReflTransGen P.Step (Pool.start K dbs t₀) q) : q.Tracks P t₀ := by
  induction h with
  | refl => exact Pool.tracks_start K t₀ hnd hflags
  | tail hr hs ih => exact hs.tracks hcl hsl ha (Pass.reach_wf hr) ih

theorem Pass.returns_servers {K : Nat} {dbs dbs' : List DbInstance} {e : Option Error} {t : Targets}
    (hnd : (hostnames dbs).Nodup) (hflags : ∀ d ∈ dbs, d.succeeded P.action = false)
    (h : P.Returns K dbs t₀ dbs' e t) :
    (∀ d ∈ dbs', t.password d.hostname =
        (if d.succeeded P.action then P.creds.new.password else t₀.password d.hostname) ∧
        (d.succeeded P.action = true → t₀.password d.hostname = P.creds.current.password) ∧
        (skips P.action d = true → d.succeeded P.action = false)) ∧
      ∀ h, h ∉ hostnames dbs → t.password h = t₀.password h := by
  obtain ⟨q, hq, hr, rfl, rfl⟩ := h
  have ht := Pass.reach_tracks hcl hsl ha hnd hflags hq
  have hthr : ∀ n d, through q.workers P.action n d = d.succeeded P.action := by
    simp [through, (Pass.reach_wf hq).drained _ hr]
  refine ⟨fun d hd => ?_, fun h hh => ht.frame h (by rwa [Pass.reach_hostnames hq])⟩
  obtain ⟨n, hn⟩ := List.mem_iff_getElem?.mp hd
  exact ⟨by rw [ht.password n d hn, hthr], fun hs => ht.login n d hn (by rwa [hthr]), ht.skipped n d hn⟩

end Tracks

/-! ### A pass that no panic interrupts -/

/-- What a pass keeps when no panic is among the faults: no worker panics, a dispatcher
that has left its loop without `ctx.Done()` went through every instance, every instance
dispatched was skipped, has a live worker or has its outcome recorded, and a nil return
comes after the whole loop and counts no error. -/
structure Pool.Sweeps (P : Pass Targets) (p : Pool Targets) : Prop where
  faults : Fault.panic ∉ p.env.faults
  unpanicked : ∀ w ∈ p.workers, w.pc ≠ .exit .panicked
  draining : p.disp = .draining false → p.dbs.length ≤ p.index
  reached : ∀ (n : Nat) (d : DbInstance), n < p.index → p.dbs[n]? = some d → skips P.action d = true ∨
    n ∈ p.workers.map (·.dbNo) ∨ d.succeeded P.action = true ∨ (d.error P.action).isSome = true
  result : p.disp = .returned none → p.dbs.length ≤ p.index ∧ errCount P.action p.dbs = 0

section Sweeps

variable {P : Pass Targets} (hcl : P.env.client = Targets.client) (hsl : P.env.sleep = id)
include hcl hsl

theorem Pass.Step.sweeps {p q : Pool Targets} (h : P.Step p q) (hw : p.Wf P) (hs : p.Sweeps P) :
    q.Sweeps P := by
  obtain ⟨hf, hu, hdr, hre, hres⟩ := hs
  have hnr : p.workers ≠ [] → ∀ e, p.disp ≠ .returned e := fun hne e he => hne (hw.drained e he)
  cases h with
  | recv => exact ⟨hf, hu, by simp, hre, by simp⟩
  | ctxDone => exact ⟨hf, hu, by simp, hre, by simp⟩
  | loopEnd _ h2 => exact ⟨hf, hu, fun _ => h2, hre, by simp⟩
  | skip d _ h2 h3 =>
    refine ⟨hf, hu, by simp, fun n d' hn hd' => ?_, by simp⟩
    rcases Nat.lt_succ_iff_lt_or_eq.mp hn with hn | rfl
    · exact hre n d' hn hd'
    · rw [h2] at hd'; cases hd'; exact .inl h3
  | spawn d _ _ _ =>
    refine ⟨hf, ?_, by simp, fun n d' hn hd' => ?_, by simp⟩
    · simp only [List.mem_cons, forall_eq_or_imp]; exact ⟨by simp, hu⟩
    · rcases Nat.lt_succ_iff_lt_or_eq.mp hn with hn | rfl
      · exact (hre n d' hn hd').imp_right (Or.imp_left (List.mem_cons_of_mem _))
      · exact .inr (.inl (List.mem_cons_self _ _))
  | work i w d pc s h1 h2 h3 =>
    have hne := List.ne_nil_of_mem (List.getElem?_mem h1)
    obtain ⟨hpc, hf'⟩ := P.advance_unpanicked hcl hsl hf h3
    refine ⟨hf', fun x hx => ?_, hdr, fun n d' hn hd' => ?_, fun he => absurd he (hnr hne _)⟩
    · rcases (mem_set_worker hw.workers_nodup h1 pc x).mp hx with rfl | ⟨-, hx⟩
      · exact hpc
      · exact hu x hx
    · simpa only [map_dbNo_set h1] using hre n d' hn hd'
  | exit i w o h1 h2 =>
    have hwm := List.getElem?_mem h1
    have hne := List.ne_nil_of_mem hwm
    have ho : o ≠ .panicked := fun ho => hu w hwm (by rw [h2, ho])
    refine ⟨hf, fun x hx => hu x ((List.eraseIdx_sublist _ _).subset hx), by simpa using hdr,
      fun n d' hn hd' => ?_, fun he => absurd he (hnr hne _)⟩
    obtain ⟨d, hd, rfl⟩ := getElem?_modify_some hd'
    split_ifs with hn'
    · exact .inr (.inr (record_settles ho d))
    · exact (hre n d hn hd).imp_right (Or.imp_left fun h => dbNo_mem_eraseIdx hw.workers_nodup h1 h (Ne.symm hn'))
  | finish c h1 h2 =>
    refine ⟨hf, by simp [h2], by simp, hre, fun he => ?_⟩
    simp only [Dispatcher.returned.injEq] at he
    split_ifs at he with hc
    obtain rfl : c = false := by simpa using hc
    exact ⟨hdr h1, aggregate_eq_none.mp he⟩

theorem Pass.reach_sweeps {K : Nat} {dbs : List DbInstance} {t : Targets} (hnp : Fault.panic ∉ t.faults)
    {q : Pool Targets} (h : ReflTransGen P.Step (Pool.start K dbs t) q) : q.Sweeps P := by
  induction h with
  | refl => constructor <;> simp [Pool.start, hnp]
  | tail hr hs ih => exact hs.sweeps hcl hsl (Pass.reach_wf hr) ih

theorem Pass.reach_returned_nil {K : Nat} {dbs : List DbInstance} {t : Targets} (hnp : Fault.panic ∉ t.faults)
    {q : Pool Targets} (hq : ReflTransGen P.Step (Pool.start K dbs t) q) (hr : q.disp = .returned none) :
    q.workers = [] ∧ ∀ n d, q.dbs[n]? = some d → n < q.index ∧ (d.error P.action).isSome = false := by
  obtain ⟨hend, hcount⟩ := (Pass.reach_sweeps hcl hsl hnp hq).result hr
  simp only [errCount, List.length_eq_zero, List.filter_eq_nil_iff, decide_eq_true_eq] at hcount
  refine ⟨(Pass.reach_wf hq).drained _ hr, fun n d hn => ⟨?_, by simpa using hcount d (List.getElem?_mem hn)⟩⟩
  exact lt_of_lt_of_le (List.getElem?_eq_some_iff.mp hn).1 hend

theorem Pass.returns_nil_settled {K : Nat} {dbs dbs' : List DbInstance} {t t' : Targets}
    (hnp : Fault.panic ∉ t.faults) (h : P.Returns K dbs t dbs' none t') :
    ∀ d ∈ dbs', skips P.action d = true ∨ d.succeeded P.action = true := by
  obtain ⟨q, hq, hr, rfl, rfl⟩ := h
  obtain ⟨hnw, hall⟩ := Pass.reach_returned_nil hcl hsl hnp hq hr
  intro d hd
  obtain ⟨n, hn⟩ := List.mem_iff_getElem?.mp hd
  obtain ⟨hlt, hne⟩ := hall n d hn
  rcases (Pass.reach_sweeps hcl hsl hnp hq).reached n d hlt hn with h | h | h | h
  · exact .inl h
  · simp [hnw] at h
  · exact .inr h
  · simp [hne] at h

end Sweeps

section Installs

variable {P : Pass Targets} (hcl : P.env.client = Targets.client) (hsl : P.env.sleep = id)
  (ha : P.action ≠ .verifyPassword)
include hcl hsl ha

theorem Pass.returns_nil_installs {K : Nat} {dbs dbs' : List DbInstance} {t₀ t : Targets}
    (hnd : (hostnames dbs).Nodup) (hflags : ∀ d ∈ dbs, d.succeeded P.action = false)
    (hnp : Fault.panic ∉ t₀.faults) (h : P.Returns K dbs t₀ dbs' none t) :
    ∀ d ∈ dbs', skips P.action d = false →
      t.password d.hostname = P.creds.new.password ∧ t₀.password d.hostname = P.creds.current.password := by
  obtain ⟨hs, -⟩ := Pass.returns_servers hcl hsl ha hnd hflags h
  intro d hd hsk
  have hset := (Pass.returns_nil_settled hcl hsl hnp h d hd).resolve_left (by simp [hsk])
  obtain ⟨hp, hlog, -⟩ := hs d hd
  exact ⟨by simpa [hset] using hp, hlog hset⟩

end Installs

/-! ### A verify pass -/

/-- What a verify pass keeps, from the servers `t₀`: no password changes, a worker that
returned nil found its host holding the new password, and every instance dispatched has a
live worker, a host holding the new password, or an error recorded. -/
structure Pool.Checks (P : Pass Targets) (t₀ : Targets) (p : Pool Targets) : Prop where
  password : p.env.password = t₀.password
  exited : ∀ w ∈ p.workers, w.pc = .exit (.returned none) → ∀ d, p.dbs[w.dbNo]? = some d →
    t₀.password d.hostname = P.creds.new.password
  swept : ∀ (n : Nat) (d : DbInstance), n < p.index → p.dbs[n]? = some d →
    n ∈ p.workers.map (·.dbNo) ∨ t₀.password d.hostname = P.creds.new.password ∨ (d.error P.action).isSome = true

section Checks

variable {P : Pass Targets} (hcl : P.env.client = Targets.client) (hsl : P.env.sleep = id)
  (ha : P.action = .verifyPassword) {t₀ : Targets}
include hcl hsl ha

theorem Pass.Step.checks {p q : Pool Targets} (h : P.Step p q) (hw : p.Wf P) (hs : p.Sweeps P)
    (hc : p.Checks P t₀) : q.Checks P t₀ := by
  obtain ⟨hp, hex, hsw⟩ := hc
  cases h with
  | skip d _ _ h3 => simp [skips, ha] at h3
  | spawn d _ h2 =>
    refine ⟨hp, ?_, fun n d' hn hd' => ?_⟩
    · simp only [List.mem_cons, forall_eq_or_imp]
      exact ⟨by simp, hex⟩
    · rcases Nat.lt_succ_iff_lt_or_eq.mp hn with hn | rfl
      · exact (hsw n d' hn hd').imp_left (List.mem_cons_of_mem _)
      · exact .inl (List.mem_cons_self _ _)
  | work i w d pc s h1 h2 h3 =>
    obtain ⟨hpw, hok⟩ := P.advance_verify hcl hsl ha h3
    refine ⟨hpw.trans hp, fun x hx hpc d' hd' => ?_, fun n d' hn hd' => ?_⟩
    · rcases (mem_set_worker hw.workers_nodup h1 pc x).mp hx with rfl | ⟨-, hx⟩
      · rw [h2] at hd'; cases hd'
        rw [← hp]; exact hok hpc
      · exact hex x hx hpc d' hd'
    · simpa only [map_dbNo_set h1] using hsw n d' hn hd'
  | exit i w o h1 h2 =>
    have hwm := List.getElem?_mem h1
    have ho : o ≠ .panicked := fun ho => hs.unpanicked w hwm (by rw [h2, ho])
    refine ⟨hp, fun x hx hpc d' hd' => ?_, fun n d' hn hd' => ?_⟩
    · obtain ⟨d, hd, rfl⟩ := getElem?_modify_some hd'
      rw [apply_ite DbInstance.hostname, hostname_record, ite_self]
      exact hex x ((List.eraseIdx_sublist _ _).subset hx) hpc d hd
    · obtain ⟨d, hd, rfl⟩ := getElem?_modify_some hd'
      split_ifs with hn'
      · subst hn'
        rw [hostname_record]
        rcases o with (_ | e) | _
        · exact .inr (.inl (hex w hwm h2 d hd))
        · exact .inr (.inr (by rw [ha]; simp [record, DbInstance.error]))
        · exact absurd rfl ho
      · exact (hsw n d hn hd).imp_left fun h => dbNo_mem_eraseIdx hw.workers_nodup h1 h (Ne.symm hn')
  | _ => exact ⟨hp, hex, hsw⟩

theorem Pass.reach_checks {K : Nat} {dbs : List DbInstance} (hnp : Fault.panic ∉ t₀.faults) {q : Pool Targets}
    (h : ReflTransGen P.Step (Pool.start K dbs t₀) q) : q.Checks P t₀ := by
  induction h with
  | refl => exact ⟨rfl, by simp [Pool.start], by simp [Pool.start]⟩
  | tail hr hs ih => exact hs.checks hcl hsl ha (Pass.reach_wf hr) (Pass.reach_sweeps hcl hsl hnp hr) ih

theorem Pass.returns_nil_checked {K : Nat} {dbs dbs' : List DbInstance} {t : Targets}
    (hnp : Fault.panic ∉ t₀.faults) (h : P.Returns K dbs t₀ dbs' none t) :
    t.password = t₀.password ∧ ∀ d ∈ dbs', t₀.password d.hostname = P.creds.new.password := by
  obtain ⟨q, hq, hr, rfl, rfl⟩ := h
  have hc := Pass.reach_checks hcl hsl ha hnp hq
  obtain ⟨hnw, hall⟩ := Pass.reach_returned_nil hcl hsl hnp hq hr
  refine ⟨hc.password, fun d hd => ?_⟩
  obtain ⟨n, hn⟩ := List.mem_iff_getElem?.mp hd
  obtain ⟨hlt, hne⟩ := hall n d hn
  rcases hc.swept n d hlt hn with h | h | h
  · simp [hnw] at h
  · exact h
  · simp [hne] at h

end Checks

/-! ### `SetPassword`, then `Rollback` -/

@[simp] theorem PasswordSetter.pass_action (m : PasswordSetter) (a : Action) (env : Env σ) (creds : NewPassword) :
    (m.pass a env creds).action = a := rfl

@[simp] theorem PasswordSetter.pass_creds (m : PasswordSetter) (a : Action) (env : Env σ) (creds : NewPassword) :
    (m.pass a env creds).creds = if a = .rollbackPassword then creds.swap else creds := rfl

theorem hostnames_passDbs_set (m : PasswordSetter) : hostnames (m.passDbs .setPassword) = hostnames m.dbs := by
  simp [PasswordSetter.passDbs, hostnames, Function.comp_def]

/-- `VerifyPassword`, in every schedule of its goroutines, however its calls fail and are
retried and wherever the context is cancelled: when it returns nil and no call panicked,
it has changed no server's password and every target's server holds the new password. -/
theorem verifyPassword_nil_confirms (m : PasswordSetter) (creds : NewPassword) (done : Targets → Bool)
    {t t' : Targets} {dbs' : List DbInstance} (hnp : Fault.panic ∉ t.faults)
    (h : (m.pass .verifyPassword (Targets.envWith done) creds).Returns m.maxParallel
      (m.passDbs .verifyPassword) t dbs' none t') :
    t'.password = t.password ∧ ∀ host ∈ hostnames m.dbs, t.password host = creds.new.password := by
  obtain ⟨hp, hall⟩ := Pass.returns_nil_checked rfl rfl rfl hnp h
  refine ⟨hp, fun host hm => ?_⟩
  obtain ⟨q, hq, -, rfl, -⟩ := h
  have hh : hostnames q.dbs = hostnames m.dbs := Pass.reach_hostnames hq
  rw [← hh] at hm
  obtain ⟨d, hd, rfl⟩ := List.mem_map.mp hm
  simpa using hall d hd

theorem verifyPassword_nil_confirms_oneInstance :
    let t : Targets := ⟨fun _ => sampleCreds.new.password, []⟩
    let env := Targets.envWith fun _ => false
    let r := setAll oneInstance.tries .verifyPassword env sampleCreds (oneInstance.passDbs .verifyPassword) t
    Fault.panic ∉ t.faults ∧
      (oneInstance.pass .verifyPassword env sampleCreds).Returns oneInstance.maxParallel
        (oneInstance.passDbs .verifyPassword) t r.1 none r.2.2 ∧
      r.2.2.password = t.password ∧ ∀ host ∈ hostnames oneInstance.dbs, t.password host = sampleCreds.new.password := by
  intro t env r
  have hr : (oneInstance.pass .verifyPassword env sampleCreds).Returns oneInstance.maxParallel
      (oneInstance.passDbs .verifyPassword) t r.1 r.2.1 r.2.2 := Pass.returns_setAll _ (by decide) rfl
  rw [show r.2.1 = none by decide] at hr
  exact ⟨by decide, hr, verifyPassword_nil_confirms oneInstance sampleCreds _ (by decide) hr⟩

end PasswordRotation.Mysql


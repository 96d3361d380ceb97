import PasswordRotation.Mysql.Pool

/-! Every schedule of `setAll`'s goroutines returns: some goroutine can always move, and
every move lowers a rank. -/
namespace PasswordRotation.Mysql
open Relation

variable {σ : Type}

/-! ### Worker lists with one worker per instance -/

section Workers

variable {ws : List Worker} {i : Nat} {w : Worker}

theorem mem_set_worker (hnd : (ws.map (·.dbNo)).Nodup) (hi : ws[i]? = some w) (pc : Pc) (x : Worker) :
    x ∈ ws.set i ⟨w.dbNo, pc⟩ ↔ x = ⟨w.dbNo, pc⟩ ∨ x.dbNo ≠ w.dbNo ∧ x ∈ ws := by
  induction ws generalizing i with
  | nil => simp at hi
  | cons a as ih =>
    simp only [List.map_cons, List.nodup_cons, List.mem_map, not_exists, not_and] at hnd
    cases i with
    | zero =>
      obtain rfl : a = w := by simpa using hi
      simp only [List.set_cons_zero, List.mem_cons]
      constructor
      · rintro (rfl | hx)
        · exact .inl rfl
        · exact .inr ⟨fun h => hnd.1 x hx h, .inr hx⟩
      · rintro (rfl | ⟨hne, rfl | hx⟩)
        · exact .inl rfl
        · exact absurd rfl hne
        · exact .inr hx
    | succ i =>
      have hi : as[i]? = some w := by simpa using hi
      have hw : w.dbNo ≠ a.dbNo := fun h => hnd.1 w (List.getElem?_mem hi) h
      simp only [List.set_cons_succ, List.mem_cons, ih hnd.2 hi]
      constructor
      · rintro (rfl | rfl | ⟨hne, hx⟩)
        · exact .inr ⟨hw.symm, .inl rfl⟩
        · exact .inl rfl
        · exact .inr ⟨hne, .inr hx⟩
      · rintro (rfl | ⟨hne, rfl | hx⟩)
        · exact .inr (.inl rfl)
        · exact .inl rfl
        · exact .inr (.inr ⟨hne, hx⟩)

theorem mem_eraseIdx_worker (hnd : (ws.map (·.dbNo)).Nodup) (hi : ws[i]? = some w) (x : Worker) :
    x ∈ ws.eraseIdx i ↔ x.dbNo ≠ w.dbNo ∧ x ∈ ws := by
  induction ws generalizing i with
  | nil => simp at hi
  | cons a as ih =>
    simp only [List.map_cons, List.nodup_cons, List.mem_map, not_exists, not_and] at hnd
    cases i with
    | zero =>
      obtain rfl : a = w := by simpa using hi
      simp only [List.eraseIdx_cons_zero, List.mem_cons]
      exact ⟨fun hx => ⟨fun h => hnd.1 x hx h, .inr hx⟩,
        fun ⟨hne, hx⟩ => hx.resolve_left (by rintro rfl; exact hne rfl)⟩
    | succ i =>
      have hi : as[i]? = some w := by simpa using hi
      have hw : w.dbNo ≠ a.dbNo := fun h => hnd.1 w (List.getElem?_mem hi) h
      simp only [List.eraseIdx_cons_succ, List.mem_cons, ih hnd.2 hi]
      constructor
      · rintro (rfl | ⟨hne, hx⟩)
        · exact ⟨hw.symm, .inl rfl⟩
        · exact ⟨hne, .inr hx⟩
      · rintro ⟨hne, rfl | hx⟩
        · exact .inl rfl
        · exact .inr ⟨hne, hx⟩

theorem dbNo_mem_eraseIdx (hnd : (ws.map (·.dbNo)).Nodup) (hi : ws[i]? = some w) {n : Nat}
    (h : n ∈ ws.map (·.dbNo)) (hn : n ≠ w.dbNo) : n ∈ (ws.eraseIdx i).map (·.dbNo) := by
  obtain ⟨x, hx, rfl⟩ := List.mem_map.mp h
  exact List.mem_map_of_mem _ ((mem_eraseIdx_worker hnd hi x).mpr ⟨hn, hx⟩)

theorem map_dbNo_set (hi : ws[i]? = some w) (pc : Pc) :
    (ws.set i ⟨w.dbNo, pc⟩).map (·.dbNo) = ws.map (·.dbNo) := by
  induction ws generalizing i with
  | nil => simp at hi
  | cons a as ih => cases i <;> simp_all

end Workers

/-! ### The shape of a reachable state -/

def Pc.within (tries : Nat) : Pc → Prop
  | .call t => t ≤ tries + 1
  | .failed t _ | .slept t _ => t ≤ tries
  | .exit _ => True

def Pc.rank (tries : Nat) : Pc → Nat
  | .call t => 3 * (tries + 1 - t) + 2
  | .failed t _ => 3 * (tries + 1 - t) + 1
  | .slept t _ => 3 * (tries + 1 - t)
  | .exit _ => 1

def workersRank (tries : Nat) : List Worker → Nat
  | [] => 0
  | w :: ws => w.pc.rank tries + workersRank tries ws

section Workers

variable {ws : List Worker} {i : Nat} {w : Worker}

theorem workersRank_set (tries : Nat) (hi : ws[i]? = some w) (x : Worker) :
    workersRank tries (ws.set i x) + w.pc.rank tries = workersRank tries ws + x.pc.rank tries := by
  induction ws generalizing i with
  | nil => simp at hi
  | cons a as ih =>
    cases i with
    | zero =>
      obtain rfl : a = w := by simpa using hi
      simp only [List.set_cons_zero, workersRank]; omega
    | succ i =>
      have := ih (by simpa using hi : as[i]? = some w)
      simp only [List.set_cons_succ, workersRank]; omega

theorem workersRank_eraseIdx (tries : Nat) (hi : ws[i]? = some w) :
    workersRank tries (ws.eraseIdx i) + w.pc.rank tries = workersRank tries ws := by
  induction ws generalizing i with
  | nil => simp at hi
  | cons a as ih =>
    cases i with
    | zero =>
      obtain rfl : a = w := by simpa using hi
      simp only [List.eraseIdx_cons_zero, workersRank]; omega
    | succ i =>
      have := ih (by simpa using hi : as[i]? = some w)
      simp only [List.eraseIdx_cons_succ, workersRank]; omega

end Workers

def Dispatcher.rank : Dispatcher → Nat
  | .select => 3
  | .holding => 2
  | .draining _ => 1
  | .returned _ => 0

/-- The moves left at most: each instance not yet dispatched can cost a spawn and a
worker's whole loop. -/
def Pool.rank (tries : Nat) (p : Pool σ) : Nat :=
  (3 * tries + 6) * (p.dbs.length - p.index) + p.disp.rank + workersRank tries p.workers

/-- Every reachable state of a pass: the dispatcher holds a token only for an instance
that exists, each live worker runs for a distinct dispatched instance that was not
skipped, within its tries, and the dispatcher returns only with no worker left. -/
structure Pool.Wf (P : Pass σ) (p : Pool σ) : Prop where
  index_le : p.index ≤ p.dbs.length
  holding_lt : p.disp = .holding → p.index < p.dbs.length
  workers_nodup : (p.workers.map (·.dbNo)).Nodup
  workers_lt : ∀ w ∈ p.workers, w.dbNo < p.index
  workers_at : ∀ w ∈ p.workers, ∃ d, p.dbs[w.dbNo]? = some d ∧ skips P.action d = false
  workers_within : ∀ w ∈ p.workers, w.pc.within P.tries.toNat
  drained : ∀ e, p.disp = .returned e → p.workers = []

@[simp] theorem skips_record (a : Action) (o : Outcome) (d : DbInstance) :
    skips a (record a o d) = skips a d := by
  rcases o with (_ | _) | _ <;> cases a <;> rfl

variable {P : Pass σ}

theorem Pass.advance_rank {host : String} {pc pc' : Pc} {s s' : σ}
    (h : P.advance host pc s = some (pc', s')) (hw : pc.within P.tries.toNat) :
    pc'.within P.tries.toNat ∧ pc'.rank P.tries.toNat < pc.rank P.tries.toNat := by
  cases pc with
  | exit o => simp [Pass.advance] at h
  | _ =>
    simp only [Pass.advance] at h
    simp only [Pc.within] at hw
    split_ifs at h <;> (try split at h) <;> cases h <;> refine ⟨?_, ?_⟩ <;> simp only [Pc.within, Pc.rank] <;> omega

theorem Pass.advance_cases {host : String} {pc pc' : Pc} {s s' : σ} (h : P.advance host pc s = some (pc', s')) :
    (s' = (P.env.call P.action (stamp P.creds host) s).2 ∧
      (pc' = .exit (P.env.call P.action (stamp P.creds host) s).1 ∨
        ∃ t e, pc' = .failed t e ∧ (P.env.call P.action (stamp P.creds host) s).1 = .returned (some e))) ∨
    ((s' = s ∨ s' = P.env.sleep s) ∧ ∀ o, pc' = .exit o → ∃ e, o = .returned (some e)) := by
  cases pc with
  | call t =>
    simp only [Pass.advance] at h
    split_ifs at h
    · split at h <;> cases h
      · exact .inl ⟨rfl, .inr ⟨t, _, rfl, ‹_›⟩⟩
      · exact .inl ⟨rfl, .inl rfl⟩
    · cases h; exact .inr ⟨.inl rfl, by simp⟩
  | failed t e | slept t e =>
    simp only [Pass.advance] at h
    split_ifs at h <;> cases h <;> simp
  | exit o => simp [Pass.advance] at h

theorem Pass.advance_ne_none (host : String) {pc : Pc} (hpc : ∀ o, pc ≠ .exit o) (s : σ) :
    P.advance host pc s ≠ none := by
  cases pc with
  | exit o => exact absurd rfl (hpc o)
  | _ => simp only [Pass.advance]; split_ifs <;> (try split) <;> simp

theorem Pool.wf_start (K : Nat) (dbs : List DbInstance) (s : σ) : (Pool.start K dbs s).Wf P := by
  constructor <;> simp [Pool.start]

theorem Pass.Step.wf {p q : Pool σ} (h : P.Step p q) (hp : p.Wf P) : q.Wf P := by
  obtain ⟨hle, hhold, hnd, hlt, hat, hwi, hdr⟩ := hp
  cases h with
  | recv _ h2 => exact ⟨hle, fun _ => h2, hnd, hlt, hat, hwi, by simp⟩
  | ctxDone => exact ⟨hle, by simp, hnd, hlt, hat, hwi, by simp⟩
  | loopEnd => exact ⟨hle, by simp, hnd, hlt, hat, hwi, by simp⟩
  | skip d h1 =>
    exact ⟨hhold h1, by simp, hnd, fun w hw => Nat.lt_succ_of_lt (hlt w hw), hat, hwi, by simp⟩
  | spawn d h1 h2 h3 =>
    refine ⟨hhold h1, by simp, ?_, ?_, ?_, ?_, by simp⟩
    · simp only [List.map_cons, List.nodup_cons, List.mem_map, not_exists, not_and]
      exact ⟨fun w hw h => (hlt w hw).ne h, hnd⟩
    · simp only [List.mem_cons, forall_eq_or_imp]
      exact ⟨Nat.lt_succ_self _, fun w hw => Nat.lt_succ_of_lt (hlt w hw)⟩
    · simp only [List.mem_cons, forall_eq_or_imp]
      exact ⟨⟨d, h2, h3⟩, hat⟩
    · simp only [List.mem_cons, forall_eq_or_imp]
      exact ⟨by simp [Pc.within], hwi⟩
  | work i w d pc s h1 h2 h3 =>
    have hw : w ∈ p.workers := List.getElem?_mem h1
    have hmem : ∀ x ∈ p.workers.set i ⟨w.dbNo, pc⟩, x = ⟨w.dbNo, pc⟩ ∨ x ∈ p.workers := fun x hx =>
      ((mem_set_worker hnd h1 pc x).mp hx).imp id And.right
    refine ⟨hle, hhold, by simpa [map_dbNo_set h1] using hnd, fun x hx => ?_, fun x hx => ?_,
      fun x hx => ?_, fun e he => absurd (hdr e he) (List.ne_nil_of_mem hw)⟩
    · rcases hmem x hx with rfl | hx
      · exact hlt w hw
      · exact hlt x hx
    · rcases hmem x hx with rfl | hx
      · exact hat w hw
      · exact hat x hx
    · rcases hmem x hx with rfl | hx
      · exact (P.advance_rank h3 (hwi w hw)).1
      · exact hwi x hx
  | exit i w o h1 h2 =>
    have hw : w ∈ p.workers := List.getElem?_mem h1
    have hsub := List.eraseIdx_sublist p.workers i
    refine ⟨by simpa using hle, by simpa using hhold, (hnd.sublist (hsub.map _)),
      fun x hx => hlt x (hsub.subset hx), fun x hx => ?_, fun x hx => hwi x (hsub.subset hx),
      fun e he => absurd (hdr e he) (List.ne_nil_of_mem hw)⟩
    obtain ⟨d, hd, hs⟩ := hat x (hsub.subset hx)
    refine ⟨_, by rw [List.getElem?_modify, hd]; rfl, ?_⟩
    split_ifs <;> simpa using hs
  | finish c h1 h2 => exact ⟨hle, by simp, hnd, hlt, hat, hwi, fun _ _ => h2⟩

theorem Pass.reach_wf {K : Nat} {dbs : List DbInstance} {s : σ} {q : Pool σ}
    (h : ReflTransGen P.Step (Pool.start K dbs s) q) : q.Wf P := by
  induction h with
  | refl => exact Pool.wf_start K dbs s
  | tail _ hs ih => exact hs.wf ih

/-! ### Every move lowers the rank -/

theorem Pass.Step.rank_lt {p q : Pool σ} (h : P.Step p q) (hp : p.Wf P) :
    q.rank P.tries.toNat < p.rank P.tries.toNat := by
  simp only [Pool.rank]
  cases h with
  | recv h1 => simp [h1, Dispatcher.rank]
  | ctxDone h1 => simp [h1, Dispatcher.rank]
  | loopEnd h1 => simp [h1, Dispatcher.rank]
  | skip d h1 =>
    have : p.dbs.length - p.index = p.dbs.length - (p.index + 1) + 1 := by have := hp.holding_lt h1; omega
    simp only [h1, Dispatcher.rank, this, Nat.mul_succ]
    omega
  | spawn d h1 =>
    have : p.dbs.length - p.index = p.dbs.length - (p.index + 1) + 1 := by have := hp.holding_lt h1; omega
    simp only [h1, Dispatcher.rank, this, Nat.mul_succ, workersRank, Pc.rank]
    omega
  | work i w d pc s h1 h2 h3 =>
    have hlt := (P.advance_rank h3 (hp.workers_within w (List.getElem?_mem h1))).2
    have := workersRank_set P.tries.toNat h1 ⟨w.dbNo, pc⟩
    dsimp only at this ⊢
    omega
  | exit i w o h1 h2 =>
    have := workersRank_eraseIdx P.tries.toNat h1
    simp only [h2, Pc.rank, List.length_modify] at this ⊢
    omega
  | finish c h1 => simp [h1, Dispatcher.rank]

theorem Pass.run_length_le {K : Nat} {dbs : List DbInstance} {s : σ} (f : Nat → Pool σ)
    (h0 : f 0 = Pool.start K dbs s) {k : Nat} (hrun : ∀ i < k, P.Step (f i) (f (i + 1))) :
    k ≤ (3 * P.tries.toNat + 6) * dbs.length + 3 := by
  have key : ∀ i ≤ k, (f i).Wf P ∧ (f i).rank P.tries.toNat + i ≤ (Pool.start K dbs s).rank P.tries.toNat := by
    intro i
    induction i with
    | zero => intro _; simp [h0, Pool.wf_start]
    | succ i ih =>
      intro hi
      obtain ⟨hw, hr⟩ := ih (by omega)
      have hs := hrun i (by omega)
      exact ⟨hs.wf hw, by have := hs.rank_lt hw; omega⟩
  have := (key k le_rfl).2
  simp only [Pool.rank, Pool.start, Dispatcher.rank, workersRank, Nat.sub_zero] at this
  omega

/-! ### Some goroutine can always move -/

theorem Pass.worker_moves {p : Pool σ} (hp : p.Wf P) (hne : p.workers ≠ []) : ∃ q, P.Step p q := by
  obtain ⟨w, ws, hws⟩ := List.exists_cons_of_ne_nil hne
  have h0 : p.workers[0]? = some w := by simp [hws]
  obtain ⟨d, hd, -⟩ := hp.workers_at w (by simp [hws])
  by_cases hpc : ∃ o, w.pc = .exit o
  · obtain ⟨o, ho⟩ := hpc
    exact ⟨_, .exit p 0 w o h0 ho⟩
  · obtain ⟨⟨pc, s⟩, ha⟩ := Option.ne_none_iff_exists'.mp
      (P.advance_ne_none d.hostname (fun o h => hpc ⟨o, h⟩) p.env)
    exact ⟨_, .work p 0 w d pc s h0 hd ha⟩

theorem Pass.can_step {K : Nat} (hK : 0 < K) {p : Pool σ} (hp : p.Wf P) (hi : p.Inv K)
    (hr : ∀ e, p.disp ≠ .returned e) : ∃ q, P.Step p q := by
  by_cases hne : p.workers = []
  · have hslots := hi.slots
    cases hd : p.disp with
    | select =>
      by_cases hlt : p.index < p.dbs.length
      · exact ⟨_, .recv p hd hlt (by simp [Pool.held, hne, hd] at hslots; omega)⟩
      · exact ⟨_, .loopEnd p hd (by omega)⟩
    | holding =>
      obtain ⟨d, hd'⟩ := Option.ne_none_iff_exists'.mp
        (by simpa using hp.holding_lt hd : p.dbs[p.index]? ≠ none)
      cases hs : skips P.action d
      · exact ⟨_, .spawn p d hd hd' hs⟩
      · exact ⟨_, .skip p d hd hd' hs⟩
    | draining c => exact ⟨_, .finish p c hd hne⟩
    | returned e => exact absurd hd (hr e)
  · exact Pass.worker_moves hp hne

/-- `setAll` always returns, whatever the environment's calls, context and sleeps do and
however the goroutines interleave: with at least one token in the channel, a state the
pass reaches either has returned or has a move, and no run of the pass has more than
`(3 * tries + 6) * len + 3` moves. -/
theorem Pass.always_returns (P : Pass σ) {K : Nat} (hK : 0 < K) (dbs : List DbInstance) (s : σ) :
    (∀ q, ReflTransGen P.Step (Pool.start K dbs s) q → (∃ e, q.disp = .returned e) ∨ ∃ q', P.Step q q') ∧
      ∀ (f : Nat → Pool σ) (k : Nat), f 0 = Pool.start K dbs s → (∀ i < k, P.Step (f i) (f (i + 1))) →
        k ≤ (3 * P.tries.toNat + 6) * dbs.length + 3 := by
  refine ⟨fun q hq => ?_, fun f k h0 hrun => Pass.run_length_le f h0 hrun⟩
  by_cases hr : ∃ e, q.disp = .returned e
  · exact .inl hr
  · exact .inr (Pass.can_step hK (Pass.reach_wf hq) (Pass.inv_reach hq (Pool.inv_start K dbs s))
      fun e he => hr ⟨e, he⟩)

theorem always_returns_oneInstance :
    let P := oneInstance.pass .setPassword (uniformEnv (.returned none)) sampleCreds
    let dbs := oneInstance.passDbs .setPassword
    0 < oneInstance.maxParallel ∧
      (∀ q, ReflTransGen P.Step (Pool.start oneInstance.maxParallel dbs ()) q →
        (∃ e, q.disp = .returned e) ∨ ∃ q', P.Step q q') ∧
      ∀ (f : Nat → Pool Unit) (k : Nat), f 0 = Pool.start oneInstance.maxParallel dbs () →
        (∀ i < k, P.Step (f i) (f (i + 1))) → k ≤ (3 * P.tries.toNat + 6) * dbs.length + 3 :=
  ⟨by decide, Pass.always_returns _ (by decide) _ _⟩

/-! ### What a run returns -/

/-- The goroutines of a pass with `K` tokens, started on `dbs` with the environment in
`s`, can return `e`, leaving the instances `dbs'` and the environment in `s'`. -/
def Pass.Returns (P : Pass σ) (K : Nat) (dbs : List DbInstance) (s : σ) (dbs' : List DbInstance)
    (e : Option Error) (s' : σ) : Prop :=
  ∃ q : Pool σ, ReflTransGen P.Step (Pool.start K dbs s) q ∧ q.disp = .returned e ∧ q.dbs = dbs' ∧ q.env = s'

theorem Pass.returns_setAll (P : Pass σ) {K : Nat} (hK : 0 < K) {dbs dbs' : List DbInstance} {s s' : σ}
    {e : Option Error} (h : setAll P.tries P.action P.env P.creds dbs s = (dbs', e, s')) :
    P.Returns K dbs s dbs' e s' :=
  have ⟨_, hr⟩ := P.reach_setAll hK dbs s
  ⟨_, hr, by rw [h], by rw [h], by rw [h]⟩

end PasswordRotation.Mysql

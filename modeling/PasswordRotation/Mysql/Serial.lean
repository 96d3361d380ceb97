import PasswordRotation.Mysql.Schedule

/-! `Parallel = 1`: with one token and a context never cancelled, every schedule of
`setAll`'s goroutines returns what the sequential `setAll` computes. -/
namespace PasswordRotation.Mysql
open Relation

variable {σ : Type} {P : Pass σ}

def Pass.finishPc (P : Pass σ) (host : String) : Pc → σ → Outcome × σ
  | .call t, s => setOneLoop P.tries.toNat P.action P.env (stamp P.creds host) t (P.tries.toNat + 1 - t) s
  | .failed t e, s =>
    if t = P.tries.toNat then (.returned (some e), s)
    else if P.env.done s then (.returned (some e), s)
    else if P.env.done (P.env.sleep s) then (.returned (some errCanceled), P.env.sleep s)
    else setOneLoop P.tries.toNat P.action P.env (stamp P.creds host) (t + 1) (P.tries.toNat - t) (P.env.sleep s)
  | .slept t _, s =>
    if P.env.done s then (.returned (some errCanceled), s)
    else setOneLoop P.tries.toNat P.action P.env (stamp P.creds host) (t + 1) (P.tries.toNat - t) s
  | .exit o, s => (o, s)

theorem Pass.finishPc_advance {host : String} {pc pc' : Pc} {s s' : σ}
    (h : P.advance host pc s = some (pc', s')) : P.finishPc host pc' s' = P.finishPc host pc s := by
  cases pc with
  | call t =>
    simp only [Pass.advance] at h
    split_ifs at h with ht
    · have hk : P.tries.toNat + 1 - t = (P.tries.toNat - t) + 1 := by omega
      rcases hr : P.env.call P.action (stamp P.creds host) s with ⟨o, s₁⟩
      rw [hr] at h
      simp only [Pass.finishPc, hk, setOneLoop, hr]
      rcases o with ⟨_ | e⟩ | _ <;> simp at h <;> obtain ⟨rfl, rfl⟩ := h <;> rfl
    · cases h
      simp [Pass.finishPc, show P.tries.toNat + 1 - t = 0 by omega, setOneLoop]
  | failed t e | slept t e =>
    simp only [Pass.advance] at h
    split_ifs at h <;> cases h <;> simp_all [Pass.finishPc]
  | exit o => simp [Pass.advance] at h

def Pass.settle (P : Pass σ) (ws : List Worker) (dbs : List DbInstance) (s : σ) : List DbInstance × σ :=
  match ws with
  | [w] =>
    match dbs[w.dbNo]? with
    | some d =>
      let o := P.finishPc d.hostname w.pc s
      (dbs.modify (record P.action o.1) w.dbNo, o.2)
    | none => (dbs, s)
  | _ => (dbs, s)

/-- What a state leads to when its live worker finishes first and the dispatcher's loop
then runs sequentially: the instances, the result and the environment. -/
def Pass.complete (P : Pass σ) (p : Pool σ) : List DbInstance × Option Error × σ :=
  let w := P.settle p.workers p.dbs p.env
  match p.disp with
  | .returned e => (w.1, e, w.2)
  | .draining c => (w.1, if c then some errCanceled else aggregate P.action w.1, w.2)
  | .select | .holding =>
    let r := dispatch P.tries P.action P.env P.creds (w.1.drop p.index) w.2
    (w.1.take p.index ++ r.1, if r.2.2 then some errCanceled else aggregate P.action (w.1.take p.index ++ r.1),
      r.2.1)

@[simp] theorem Pass.settle_nil (dbs : List DbInstance) (s : σ) : P.settle [] dbs s = (dbs, s) := rfl

theorem Pass.settle_length (ws : List Worker) (dbs : List DbInstance) (s : σ) :
    (P.settle ws dbs s).1.length = dbs.length := by
  unfold Pass.settle; split
  · split <;> simp
  · rfl

theorem eq_append_cons_of_getElem? {l : List DbInstance} {i : Nat} {d : DbInstance} (h : l[i]? = some d) :
    ∃ pre rest, l = pre ++ d :: rest ∧ pre.length = i := by
  obtain ⟨hi, rfl⟩ := List.getElem?_eq_some_iff.mp h
  exact ⟨l.take i, l.drop (i + 1), by rw [← List.drop_eq_getElem_cons hi, List.take_append_drop],
    by simp; omega⟩

/-- With one token: the shape of every reachable state, and at most one live worker, for
the instance dispatched last. -/
structure Pool.Serial (P : Pass σ) (p : Pool σ) : Prop where
  wf : p.Wf P
  inv : p.Inv 1
  last : ∀ w ∈ p.workers, w.dbNo + 1 = p.index

theorem Pool.Serial.lone {p : Pool σ} (h : p.Serial P) {i : Nat} {w : Worker} (hi : p.workers[i]? = some w) :
    p.workers = [w] ∧ i = 0 := by
  have := h.inv.slots
  match hw : p.workers with
  | [] => simp [hw] at hi
  | [x] => cases i <;> simp_all
  | _ :: _ :: _ => simp [Pool.held, hw] at this; omega

theorem Pool.Serial.no_workers {p : Pool σ} (h : p.Serial P) (hp : p.disp = .holding ∨ 0 < p.tokens) :
    p.workers = [] := by
  have := h.inv.slots
  rcases hp with hp | hp <;> rcases hw : p.workers with _ | ⟨w, ws⟩ <;> simp_all [Pool.held] <;> omega

theorem Pool.serial_start (dbs : List DbInstance) (s : σ) : (Pool.start 1 dbs s).Serial P :=
  ⟨Pool.wf_start 1 dbs s, Pool.inv_start 1 dbs s, by simp [Pool.start]⟩

theorem Pass.Step.serial {p q : Pool σ} (h : P.Step p q) (hp : p.Serial P) : q.Serial P := by
  refine ⟨h.wf hp.wf, h.inv hp.inv, ?_⟩
  have hl := hp.last
  cases h with
  | skip => simp [hp.no_workers (.inl ‹_›)]
  | spawn => simp [hp.no_workers (.inl ‹_›)]
  | work i w d pc s h1 =>
    intro x hx
    rcases List.mem_or_eq_of_mem_set hx with hx | rfl
    · exact hl x hx
    · exact hl w (List.getElem?_mem h1)
  | exit i w o h1 => exact fun x hx => hl x ((List.eraseIdx_sublist _ _).subset hx)
  | _ => exact hl

section Serial

variable (hd : ∀ s, P.env.done s = false)
include hd

theorem Pass.Step.complete_eq {p q : Pool σ} (h : P.Step p q) (hp : p.Serial P) :
    P.complete q = P.complete p := by
  cases h with
  | recv h1 => simp only [Pass.complete, h1]
  | ctxDone _ _ h3 => simp [hd] at h3
  | loopEnd h1 h2 =>
    have hlen := P.settle_length p.workers p.dbs p.env
    simp only [Pass.complete, h1, List.drop_of_length_le (hlen ▸ h2), List.take_of_length_le (hlen ▸ h2),
      dispatch, List.append_nil, Bool.false_eq_true, if_false]
  | skip d h1 h2 h3 =>
    obtain ⟨pre, rest, hdbs, hlen⟩ := eq_append_cons_of_getElem? h2
    simp only [Pass.complete, h1, hp.no_workers (.inl h1), Pass.settle_nil, hdbs, ← hlen]
    simp [dispatch, hd, h3, List.take_append_eq_append_take, List.take_of_length_le]
  | spawn d h1 h2 h3 =>
    obtain ⟨pre, rest, hdbs, hlen⟩ := eq_append_cons_of_getElem? h2
    simp only [Pass.complete, h1, hp.no_workers (.inl h1), Pass.settle, h2, hdbs, ← hlen, modify_append_cons]
    simp [dispatch, hd, h3, setOne, Pass.finishPc, List.take_append_eq_append_take, List.take_of_length_le,
      List.getElem_append_right]
  | work i w d pc s h1 h2 h3 =>
    obtain ⟨hw, rfl⟩ := hp.lone h1
    simp only [Pass.complete, hw, Pass.settle, List.set_cons_zero, h2, Pass.finishPc_advance h3]
  | exit i w o h1 h2 =>
    obtain ⟨hw, rfl⟩ := hp.lone h1
    obtain ⟨d, hd', -⟩ := hp.wf.workers_at w (by simp [hw])
    simp only [Pass.complete, hw, Pass.settle, List.eraseIdx_cons_zero, Pass.settle_nil, hd', h2, Pass.finishPc]
  | finish c h1 h2 => simp only [Pass.complete, h1, h2, Pass.settle_nil]

theorem Pass.reach_complete {dbs : List DbInstance} {s : σ} {q : Pool σ}
    (h : ReflTransGen P.Step (Pool.start 1 dbs s) q) :
    q.Serial P ∧ P.complete q = setAll P.tries P.action P.env P.creds dbs s := by
  induction h with
  | refl => exact ⟨Pool.serial_start dbs s, by simp [Pass.complete, Pool.start, setAll]⟩
  | tail _ hs ih => exact ⟨hs.serial ih.1, (hs.complete_eq hd ih.1).trans ih.2⟩

end Serial

/-- With one token in the channel (`Parallel = 1`) and a context that is never cancelled,
the goroutines of `setAll` return, in every schedule, exactly what the sequential
`setAll` computes: the instances with their flags and errors, the error, and the
environment. -/
theorem Pass.returns_one_token (P : Pass σ) (hd : ∀ s, P.env.done s = false) (dbs : List DbInstance) (s : σ)
    {dbs' : List DbInstance} {e : Option Error} {s' : σ} :
    P.Returns 1 dbs s dbs' e s' ↔ setAll P.tries P.action P.env P.creds dbs s = (dbs', e, s') := by
  refine ⟨fun ⟨q, hq, hr, h1, h2⟩ => ?_, P.returns_setAll Nat.one_pos⟩
  obtain ⟨hs, hc⟩ := Pass.reach_complete hd hq
  rw [← hc]
  simp [Pass.complete, hr, hs.wf.drained e hr, h1, h2]

theorem returns_one_token_oneInstance :
    let P := oneInstance.pass .setPassword (uniformEnv (.returned none)) sampleCreds
    (∀ s, P.env.done s = false) ∧
      (P.Returns 1 (oneInstance.passDbs .setPassword) () [{ hostname := "db1", set := true }] none () ↔
        setAll P.tries P.action P.env P.creds (oneInstance.passDbs .setPassword) () =
          ([{ hostname := "db1", set := true }], none, ())) :=
  ⟨fun _ => rfl, Pass.returns_one_token _ (fun _ => rfl) _ _⟩

end PasswordRotation.Mysql

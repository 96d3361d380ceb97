import PasswordRotation.Mysql.Pool
import PasswordRotation.Mysql.Targets

/-! The targets of a `mysql.PasswordSetter`: `Init` takes them once from the paged
`DescribeDBInstances`, and no later call or schedule changes them. -/
namespace PasswordRotation.Mysql
open Relation

variable {σ : Type}

/-! ### `DescribeDBInstances` as RDS pages it -/

structure DescribeDBInstancesInput where
  marker : Option Nat := none
  maxRecords : Option Nat := none
  deriving DecidableEq, Repr

structure DescribeDBInstancesOutput where
  dbInstances : List DBInstance
  marker : Option Nat
  deriving DecidableEq, Repr

/-- What RDS answers over the account's instances: at most `MaxRecords` (100 when unset)
instances from the marker on, and a marker when more follow. -/
def describeDBInstances (instances : List DBInstance) (input : DescribeDBInstancesInput) :
    DescribeDBInstancesOutput :=
  let start := input.marker.getD 0
  let max := input.maxRecords.getD 100
  ⟨(instances.drop start).take max, if start + max < instances.length then some (start + max) else none⟩

/-- `rdsiface.RDSAPI`, the `RDSClient` of `Config`, against an environment state `σ`:
RDS's answer to a call, or the error the call ends with, and the state after it. -/
structure RDSAPI (σ : Type) where
  describeDBInstances : DescribeDBInstancesInput → σ → Except Error DescribeDBInstancesOutput × σ

def RDSAPI.ofAccount (instances : σ → List DBInstance) : RDSAPI σ :=
  ⟨fun input s => (.ok (Mysql.describeDBInstances (instances s) input), s)⟩

/-- `Init` with its call: unless it is done, `DescribeDBInstances` with an empty input,
of whose answer it reads `DBInstances` only. -/
def PasswordSetter.initWith (m : PasswordSetter) (rds : RDSAPI σ) (s : σ) :
    PasswordSetter × Option Error × σ :=
  if m.initDone then (m, none, s)
  else
    let r := rds.describeDBInstances {} s
    let i := m.init (r.1.map (·.dbInstances))
    (i.1, i.2, r.2)

/-! ### Calls on the setter, in any order -/

inductive Op where
  | init
  | setPassword (creds : NewPassword)
  | verifyPassword (creds : NewPassword)
  | rollback (creds : NewPassword)
  deriving DecidableEq, Repr

def PasswordSetter.call (m : PasswordSetter) (rds : RDSAPI σ) (env : Env σ) :
    Op → σ → PasswordSetter × Option Error × σ
  | .init, s => m.initWith rds s
  | .setPassword creds, s => m.setPassword env creds s
  | .verifyPassword creds, s => m.verifyPassword env creds s
  | .rollback creds, s => m.rollback env creds s

/-- Calls one after another: the setter and the state after them, and each call's error. -/
def PasswordSetter.callAll (m : PasswordSetter) (rds : RDSAPI σ) (env : Env σ) :
    List Op → σ → PasswordSetter × List (Option Error) × σ
  | [], s => (m, [], s)
  | op :: ops, s =>
    let r := m.call rds env op s
    let rest := r.1.callAll rds env ops r.2.2
    (rest.1, r.2.1 :: rest.2.1, rest.2.2)

@[simp] theorem hostnames_dispatch (tries : UInt64) (action : Action) (env : Env σ) (creds : NewPassword)
    (dbs : List DbInstance) (s : σ) : hostnames (dispatch tries action env creds dbs s).1 = hostnames dbs := by
  induction dbs generalizing s with
  | nil => rfl
  | cons d ds ih => unfold dispatch; split_ifs <;> simp_all [hostnames]

theorem snapshot_append (filter : Option (DBInstance → Bool)) (xs ys : List DBInstance) :
    snapshot filter (xs ++ ys) = snapshot filter xs ++ snapshot filter ys := by
  induction xs with
  | nil => rfl
  | cons x xs ih => simp only [List.cons_append, snapshot]; split <;> (try split) <;> simp [ih]

section Calls

variable (m : PasswordSetter) (rds : RDSAPI σ) (env : Env σ)

theorem PasswordSetter.initWith_of_initDone (hm : m.initDone = true) (s : σ) : m.initWith rds s = (m, none, s) := by
  simp [PasswordSetter.initWith, hm]

theorem PasswordSetter.initWith_cases (hm : m.initDone = false) (s : σ) :
    (∃ e s₁, rds.describeDBInstances {} s = (.error e, s₁) ∧ m.initWith rds s = (m, some e, s₁)) ∨
      ∃ out s₁, rds.describeDBInstances {} s = (.ok out, s₁) ∧
        m.initWith rds s = ({ m with dbs := snapshot m.cfg.filter out.dbInstances, initDone := true }, none, s₁) := by
  rcases h : rds.describeDBInstances {} s with ⟨e | out, s₁⟩
  · exact .inl ⟨e, s₁, rfl, by simp [PasswordSetter.initWith, PasswordSetter.init, hm, h, Except.map]⟩
  · exact .inr ⟨out, s₁, rfl, by simp [PasswordSetter.initWith, PasswordSetter.init, hm, h, Except.map]⟩

theorem PasswordSetter.call_pass (op : Op) (hop : op ≠ .init) (s : σ) :
    (m.call rds env op s).1.cfg = m.cfg ∧ (m.call rds env op s).1.initDone = m.initDone ∧
      hostnames (m.call rds env op s).1.dbs = hostnames m.dbs := by
  cases op with
  | init => exact absurd rfl hop
  | setPassword creds =>
    simp only [PasswordSetter.call, PasswordSetter.setPassword, setAll, hostnames_dispatch, true_and]
    simp [hostnames, Function.comp_def]
  | verifyPassword creds => simp [PasswordSetter.call, PasswordSetter.verifyPassword, setAll]
  | rollback creds => simp [PasswordSetter.call, PasswordSetter.rollback, setAll]

theorem PasswordSetter.call_of_initDone (hm : m.initDone = true) (rds' : RDSAPI σ) (op : Op) (s : σ) :
    m.call rds env op s = m.call rds' env op s ∧ (m.call rds env op s).1.initDone = true ∧
      hostnames (m.call rds env op s).1.dbs = hostnames m.dbs := by
  by_cases hop : op = .init
  · subst hop
    simp [PasswordSetter.call, PasswordSetter.initWith_of_initDone _ _ hm, hm]
  · obtain ⟨-, hd, hh⟩ := m.call_pass rds env op hop s
    exact ⟨by cases op <;> first | exact absurd rfl hop | rfl, hd.trans hm, hh⟩

theorem PasswordSetter.call_of_not_initDone (hm : m.initDone = false) (op : Op) (s : σ) :
    (op = .init ∧ ∃ out s₁, rds.describeDBInstances {} s = (.ok out, s₁) ∧
        m.call rds env op s = ({ m with dbs := snapshot m.cfg.filter out.dbInstances, initDone := true }, none, s₁)) ∨
      ((m.call rds env op s).1.initDone = false ∧ (m.call rds env op s).1.cfg = m.cfg ∧
        hostnames (m.call rds env op s).1.dbs = hostnames m.dbs) := by
  by_cases hop : op = .init
  · subst hop
    rcases m.initWith_cases rds hm s with ⟨e, s₁, -, h⟩ | ⟨out, s₁, hr, h⟩
    · exact .inr (by simp [PasswordSetter.call, h, hm])
    · exact .inl ⟨rfl, out, s₁, hr, h⟩
  · obtain ⟨hc, hd, hh⟩ := m.call_pass rds env op hop s
    exact .inr ⟨hd.trans hm, hc, hh⟩

theorem PasswordSetter.callAll_of_initDone (hm : m.initDone = true) (rds' : RDSAPI σ) (ops : List Op) (s : σ) :
    m.callAll rds env ops s = m.callAll rds' env ops s ∧ (m.callAll rds env ops s).1.initDone = true ∧
      hostnames (m.callAll rds env ops s).1.dbs = hostnames m.dbs := by
  induction ops generalizing m s with
  | nil => exact ⟨rfl, hm, rfl⟩
  | cons op ops ih =>
    obtain ⟨heq, hd, hh⟩ := m.call_of_initDone rds env hm rds' op s
    obtain ⟨heq', hd', hh'⟩ := ih _ hd (m.call rds env op s).2.2
    refine ⟨?_, hd', hh'.trans hh⟩
    simp only [PasswordSetter.callAll, ← heq, heq']

end Calls

/-! ### The snapshot, over every sequence of calls -/

/-- Any calls, in any order, on a setter not yet set up: until an `Init` returns nil the
setter stays not set up, with its targets; the first `Init` that does makes the call that
sets it up, and takes as targets, in order, the endpoint addresses of the instances of
the page RDS answered that the filter keeps; after it no call uses the RDS client, and
none changes a target's hostname or place. -/
theorem callAll_first_init (m : PasswordSetter) (hm : m.initDone = false) (rds : RDSAPI σ) (env : Env σ)
    (ops : List Op) (s : σ) :
    let r : PasswordSetter × List (Option Error) × σ := m.callAll rds env ops s
    (r.1.initDone = false ∧ hostnames r.1.dbs = hostnames m.dbs) ∨
      ∃ pre post out s₁, ops = pre ++ .init :: post ∧
        (m.callAll rds env pre s).1.initDone = false ∧
        rds.describeDBInstances {} (m.callAll rds env pre s).2.2 = (.ok out, s₁) ∧
        r.1.initDone = true ∧ hostnames r.1.dbs = hostnames (snapshot m.cfg.filter out.dbInstances) ∧
        ∀ rds' : RDSAPI σ,
          let m₁ : PasswordSetter :=
            { (m.callAll rds env pre s).1 with dbs := snapshot m.cfg.filter out.dbInstances, initDone := true }
          (m₁.callAll rds' env post s₁).1 = r.1 ∧ (m₁.callAll rds' env post s₁).2.2 = r.2.2 := by
  induction ops generalizing m s with
  | nil => exact .inl ⟨hm, rfl⟩
  | cons op ops ih =>
    rcases m.call_of_not_initDone rds env hm op s with ⟨rfl, out, s₁, hr, hc⟩ | ⟨hd, hc, hh⟩
    · -- the first `Init` that returns nil
      let m₁ : PasswordSetter := { m with dbs := snapshot m.cfg.filter out.dbInstances, initDone := true }
      have h₁ := fun rds' => m₁.callAll_of_initDone rds env rfl rds' ops s₁
      refine .inr ⟨[], ops, out, s₁, rfl, hm, hr, ?_⟩
      simp only [PasswordSetter.callAll, hc]
      exact ⟨(h₁ rds).2.1, (h₁ rds).2.2, fun rds' => by rw [(h₁ rds').1]; exact ⟨rfl, rfl⟩⟩
    · -- a pass, or an `Init` that failed
      rcases ih _ hd (m.call rds env op s).2.2 with ⟨hd', hh'⟩ | ⟨pre, post, out, s₁, hops, hpre, hdesc, hdone, hhost, hrest⟩
      · exact .inl ⟨hd', hh'.trans hh⟩
      · exact .inr ⟨op :: pre, post, out, s₁, by rw [hops]; rfl, hpre, hdesc, hdone, hc ▸ hhost, hc ▸ hrest⟩

theorem callAll_first_init_oneInstance :
    (newPasswordSetter ⟨none, 0, 0⟩).initDone = false ∧
      let rds : RDSAPI Unit := RDSAPI.ofAccount fun _ => [⟨some "db-1", some ⟨some "db1"⟩⟩]
      let env : Env Unit := uniformEnv (.returned none)
      let ops : List Op := [.init, .setPassword sampleCreds]
      let r : PasswordSetter × List (Option Error) × Unit := (newPasswordSetter ⟨none, 0, 0⟩).callAll rds env ops ()
      (r.1.initDone = false ∧ hostnames r.1.dbs = hostnames (newPasswordSetter ⟨none, 0, 0⟩).dbs) ∨
        ∃ pre post out s₁, ops = pre ++ .init :: post ∧
          ((newPasswordSetter ⟨none, 0, 0⟩).callAll rds env pre ()).1.initDone = false ∧
          rds.describeDBInstances {} ((newPasswordSetter ⟨none, 0, 0⟩).callAll rds env pre ()).2.2 = (.ok out, s₁) ∧
          r.1.initDone = true ∧
          hostnames r.1.dbs = hostnames (snapshot (newPasswordSetter ⟨none, 0, 0⟩).cfg.filter out.dbInstances) ∧
          ∀ rds' : RDSAPI Unit,
            let m₁ : PasswordSetter :=
              { ((newPasswordSetter ⟨none, 0, 0⟩).callAll rds env pre ()).1 with
                dbs := snapshot (newPasswordSetter ⟨none, 0, 0⟩).cfg.filter out.dbInstances, initDone := true }
            (m₁.callAll rds' env post s₁).1 = r.1 ∧ (m₁.callAll rds' env post s₁).2.2 = r.2.2 :=
  ⟨rfl, callAll_first_init _ rfl _ _ _ ()⟩

/-- `Init` reads only the first page of `DescribeDBInstances`: RDS answers its call, which
sets no `MaxRecords`, with at most 100 instances and a marker for the rest, which `Init`
never follows. Every instance past the first page that the filter keeps is missing from
the targets. -/
theorem init_first_page_only (m : PasswordSetter) (hm : m.initDone = false) (instances : σ → List DBInstance)
    (s : σ) :
    let r : PasswordSetter × Option Error × σ := m.initWith (RDSAPI.ofAccount instances) s
    r.2.1 = none ∧ r.1.initDone = true ∧
      snapshot m.cfg.filter (instances s) = r.1.dbs ++ snapshot m.cfg.filter ((instances s).drop 100) := by
  dsimp only
  rcases m.initWith_cases (RDSAPI.ofAccount instances) hm s with ⟨e, s₁, h, -⟩ | ⟨out, s₁, h, hi⟩
  · cases h
  · simp only [RDSAPI.ofAccount, Prod.mk.injEq, Except.ok.injEq] at h
    rw [hi, ← h.1, ← snapshot_append]
    simp [describeDBInstances]

def fleet : List DBInstance :=
  (List.range 101).map fun i => ⟨some ("db-" ++ toString i), some ⟨some ("db" ++ toString i)⟩⟩

theorem init_first_page_only_fleet :
    let r : PasswordSetter × Option Error × Unit :=
      (newPasswordSetter ⟨none, 0, 0⟩).initWith (RDSAPI.ofAccount fun _ => fleet) ()
    (newPasswordSetter ⟨none, 0, 0⟩).initDone = false ∧
      (r.2.1 = none ∧ r.1.initDone = true ∧
        snapshot (newPasswordSetter ⟨none, 0, 0⟩).cfg.filter fleet =
          r.1.dbs ++ snapshot (newPasswordSetter ⟨none, 0, 0⟩).cfg.filter (fleet.drop 100)) ∧
      snapshot none (fleet.drop 100) = [{ hostname := "db100" }] :=
  ⟨rfl, init_first_page_only _ rfl _ (), by decide⟩

/-! ### Every interleaving of the goroutines keeps the targets -/

@[simp] theorem hostnames_modify_record (action : Action) (o : Outcome) (dbs : List DbInstance) (n : Nat) :
    hostnames (dbs.modify (record action o) n) = hostnames dbs := by
  induction dbs generalizing n with
  | nil => simp
  | cons d ds ih => cases n <;> simp_all [hostnames]

theorem Pass.Step.hostnames_dbs {P : Pass σ} {p q : Pool σ} (h : P.Step p q) : hostnames q.dbs = hostnames p.dbs := by
  cases h <;> simp

theorem Pass.reach_hostnames {P : Pass σ} {p q : Pool σ} (h : ReflTransGen P.Step p q) :
    hostnames q.dbs = hostnames p.dbs := by
  induction h with
  | refl => rfl
  | tail _ hs ih => exact hs.hostnames_dbs.trans ih

theorem SetterStep.targets {m m' : PasswordSetter} (h : SetterStep σ m m') (hm : m.initDone = true) :
    m'.initDone = true ∧ hostnames m'.dbs = hostnames m.dbs := by
  cases h with
  | init describe => rw [PasswordSetter.init_of_initDone _ hm]; exact ⟨hm, rfl⟩
  | pass action env creds s q e hq _ =>
    refine ⟨hm, (Pass.reach_hostnames hq).trans ?_⟩
    cases action <;> simp [PasswordSetter.passDbs, Pool.start, hostnames, Function.comp_def]

/-- However the goroutines of each pass interleave, once an `Init` has returned nil no
call of the setter adds, removes, reorders or renames a target. -/
theorem SetterStep.keeps_targets {m m' : PasswordSetter} (h : ReflTransGen (SetterStep σ) m m')
    (hm : m.initDone = true) : m'.initDone = true ∧ hostnames m'.dbs = hostnames m.dbs := by
  induction h with
  | refl => exact ⟨hm, rfl⟩
  | tail _ hs ih =>
    obtain ⟨hd, hh⟩ := hs.targets ih.1
    exact ⟨hd, hh.trans ih.2⟩

theorem SetterStep.keeps_targets_oneInstance :
    ReflTransGen (SetterStep Unit) oneInstance (oneInstance.init (.ok [])).1 ∧ oneInstance.initDone = true ∧
      (oneInstance.init (.ok [])).1.initDone = true ∧ hostnames (oneInstance.init (.ok [])).1.dbs = hostnames oneInstance.dbs :=
  ⟨.single (.init _ _), rfl, @SetterStep.keeps_targets Unit _ _ (.single (.init _ _)) rfl⟩

end PasswordRotation.Mysql

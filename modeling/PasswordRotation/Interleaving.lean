import PasswordRotation.Calls
import PasswordRotation.Rotation

/-! Two rotation runs on one secret with their Secrets Manager and database calls
interleaved in any order: what a phase that returned nil acted on, read by read. -/
namespace PasswordRotation

open Json

variable {δ α β : Type}

instance : DecidableEq Store := fun a b =>
  decidable_of_iff (a.versions = b.versions ∧ a.stages = b.stages) (by cases a; cases b; simp)

inductive Act where
  | sm (st : Store) (c : Call)
  | db (c : DbCall)
  deriving DecidableEq

def smActs (sm sm' : SecretsManager) : List Act := (sm'.log.drop sm.log.length).map (.sm sm.store)

def ofError : Option Error → Except Error Unit
  | none => .ok ()
  | some e => .error e

theorem smActs_of_log {sm sm' : SecretsManager} {c : Call} (h : sm'.log = sm.log ++ [c]) :
    smActs sm sm' = [.sm sm.store c] := by
  simp [smActs, h]

def Call.actedOn : Call → Option String
  | .getSecretValue stage v => if stage = AWSPENDING then v else none
  | .putSecretValue v _ _ => some v
  | .updateSecretVersionStage stage _ v => if stage = AWSCURRENT then v else none
  | .describeSecret => none

def Act.actedOn : Act → Option String
  | .sm _ c => c.actedOn
  | .db _ => none

/-- The calls read version `p` as AWSPENDING, on a store that had AWSPENDING on `p`, and
got the value `vals`. -/
def ReadPending (acts : List Act) (p : String) (vals : StrMap) : Prop :=
  ∃ st, .sm st (.getSecretValue AWSPENDING (some p)) ∈ acts ∧ st.holder AWSPENDING = some p ∧
    readSecret ((st.secretString p).getD none) = .ok vals

/-- What an invocation for phase `step` of the run with token `token` acted on: for
`createSecret`, version `token` only; for another phase, one version `p`, which it found
carrying AWSPENDING when it read it. The new credentials it set or verified on the
databases are those of a value it read that way. -/
def ActsOnRead (ss : SecretSetter) (token step : String) (acts : List Act) : Prop :=
  (step = "createSecret" → ∀ v ∈ acts.filterMap Act.actedOn, v = token) ∧
  (step ≠ "createSecret" → ∃ p, ∀ v ∈ acts.filterMap Act.actedOn, v = p ∧ ∃ vals, ReadPending acts p vals) ∧
  ∀ creds, .db (.setPassword creds) ∈ acts ∨ .db (.verifyPassword creds) ∈ acts →
    ∃ p vals, ReadPending acts p vals ∧ creds.new = ⟨(ss.credentials vals).1, "", (ss.credentials vals).2⟩

namespace Prog

/-- `p` can make the calls `acts` and return `r` when other clients change the world in
any way between two of its calls: each call finds some Secrets Manager or database state. -/
inductive Runs (s : PasswordSetter δ) : Prog α → List Act → Except Error α → Prop
  | done (r : Except Error α) : Runs s (.done r) [] r
  | sm {β : Type} {op : SecretsManager → Except Error β × SecretsManager} {k : Except Error β → Prog α} {acts r}
      (sm : SecretsManager) : Runs s (k (op sm).1) acts r → Runs s (.sm op k) (smActs sm (op sm).2 ++ acts) r
  | db {c : DbCall} {k : Except Error Unit → Prog α} {acts r} (d : δ) :
      Runs s (k (ofError (s.call c d).1)) acts r → Runs s (.db c k) (.db c :: acts) r

namespace Runs
variable {s : PasswordSetter δ}

theorem done_inv {x : Except Error α} {acts r} (h : Runs s (.done x) acts r) : acts = [] ∧ r = x := by
  cases h; exact ⟨rfl, rfl⟩

theorem bind_inv {p : Prog α} {f : α → Prog β} {acts r} (h : Runs s (p >>= f) acts r) :
    (∃ a acts₁ acts₂, acts = acts₁ ++ acts₂ ∧ Runs s p acts₁ (.ok a) ∧ Runs s (f a) acts₂ r) ∨
      ∃ e, Runs s p acts (.error e) ∧ r = .error e := by
  induction p generalizing acts with
  | done x =>
    rcases x with e | a
    · obtain ⟨rfl, rfl⟩ := done_inv h; exact .inr ⟨e, .done _, rfl⟩
    · exact .inl ⟨a, [], acts, rfl, .done _, h⟩
  | sm op k ih =>
    cases h with
    | sm sm h =>
      rcases ih _ h with ⟨a, acts₁, acts₂, rfl, h₁, h₂⟩ | ⟨e, h₁, rfl⟩
      · exact .inl ⟨a, _ ++ acts₁, acts₂, (List.append_assoc ..).symm, .sm sm h₁, h₂⟩
      · exact .inr ⟨e, .sm sm h₁, rfl⟩
  | db c k ih =>
    cases h with
    | db d h =>
      rcases ih _ h with ⟨a, acts₁, acts₂, rfl, h₁, h₂⟩ | ⟨e, h₁, rfl⟩
      · exact .inl ⟨a, _ :: acts₁, acts₂, rfl, .db d h₁, h₂⟩
      · exact .inr ⟨e, .db d h₁, rfl⟩

theorem bind_ok {p : Prog α} {f : α → Prog β} {acts b} (h : Runs s (p >>= f) acts (.ok b)) :
    ∃ a acts₁ acts₂, acts = acts₁ ++ acts₂ ∧ Runs s p acts₁ (.ok a) ∧ Runs s (f a) acts₂ (.ok b) := by
  rcases bind_inv h with h | ⟨e, -, he⟩
  · exact h
  · cases he

theorem attempt_inv {p : Prog α} {acts d} (h : Runs s p.attempt acts (.ok d)) : Runs s p acts d := by
  induction p generalizing acts with
  | done r =>
    obtain ⟨rfl, hd⟩ := done_inv h
    cases hd; exact .done _
  | sm op k ih => cases h with | sm sm h => exact .sm sm (ih _ h)
  | db c k ih => cases h with | db d h => exact .db d (ih _ h)

theorem throw_ne_ok {e : Error} {acts} {b : α} : ¬ Runs s (throw e) acts (.ok b) := fun h => by
  cases (done_inv h).2

theorem callSm_inv {op : SecretsManager → Except Error α × SecretsManager} {acts r}
    (h : Runs s (Calls.callSm op) acts r) : ∃ sm, r = (op sm).1 ∧ acts = smActs sm (op sm).2 := by
  cases h with
  | sm sm h => obtain ⟨rfl, rfl⟩ := done_inv h; exact ⟨sm, rfl, List.append_nil _⟩

theorem callDb_inv {c : DbCall} {acts r} (h : Runs s (Calls.callDb c) acts r) : acts = [.db c] := by
  cases h with
  | db d h => rw [(done_inv h).1]

theorem getSecret_ok {stage : String} {acts} {sec : GetSecretValueOutput} {vals : StrMap}
    (h : Runs s (Calls.getSecret stage) acts (.ok (sec, vals))) :
    ∃ sm : SecretsManager, acts = [.sm sm.store (.getSecretValue stage (some sec.versionId))] ∧
      sm.store.holder stage = some sec.versionId ∧ readSecret ((sm.store.secretString sec.versionId).getD none) = .ok vals := by
  obtain ⟨sec', a₁, a₂, rfl, h₁, h⟩ := bind_ok h
  obtain ⟨v, a₃, a₄, rfl, h₃, h₄⟩ := bind_ok h
  obtain ⟨sm, hr, rfl⟩ := callSm_inv h₁
  obtain ⟨rfl, hv⟩ := done_inv h₃
  obtain ⟨rfl, he⟩ := done_inv h₄
  cases he
  refine ⟨sm, ?_, SecretsManager.getSecretValue_ok hr.symm, ?_⟩
  · rw [smActs_of_log (SecretsManager.getSecretValue_log sm stage), ← hr]; rfl
  · rw [← SecretsManager.getSecretValue_secretString hr.symm, hv]

theorem getSecret_error_aws {stage : String} {acts} {e : Error}
    (h : Runs s (Calls.getSecret stage) acts (.error e)) (he : e.code ≠ none) :
    ∃ sm : SecretsManager, acts = [.sm sm.store (.getSecretValue stage none)] := by
  rcases bind_inv h with ⟨sec', a₁, a₂, rfl, h₁, h⟩ | ⟨e', h₁, he'⟩
  · rcases bind_inv h with ⟨v, a₃, a₄, rfl, h₃, h₄⟩ | ⟨e', h₃, he'⟩
    · cases (done_inv h₄).2
    · cases he'
      exact absurd (readSecret_error_code (done_inv h₃).2.symm) he
  · cases he'
    obtain ⟨sm, hr, rfl⟩ := callSm_inv h₁
    refine ⟨sm, ?_⟩
    rw [smActs_of_log (SecretsManager.getSecretValue_log sm stage), ← hr]; rfl

theorem putRotated_ok {r : Rotator δ} {curVals : StrMap} {acts}
    (h : Runs s (Calls.putRotated r curVals) acts (.ok ())) :
    ∃ (sm : SecretsManager) (str : String), acts = [.sm sm.store (.putSecretValue r.clientRequestToken str [AWSPENDING])] := by
  obtain ⟨newVals, a₁, a₂, rfl, h₁, h₂⟩ := bind_ok h
  obtain ⟨rfl, -⟩ := done_inv h₁
  obtain ⟨sm, -, rfl⟩ := callSm_inv h₂
  exact ⟨sm, _, smActs_of_log (SecretsManager.putSecretValue_log sm _ _ _)⟩

theorem pollReplication_ok {secretId : String} {n : Nat} {acts}
    (h : Runs s (Calls.pollReplication secretId n) acts (.ok ())) : ∀ a ∈ acts, ∃ st, a = .sm st .describeSecret := by
  induction n generalizing acts with
  | zero => exact absurd h throw_ne_ok
  | succ n ih =>
    obtain ⟨st, a₁, a₂, rfl, h₁, h₂⟩ := bind_ok h
    obtain ⟨sm, -, rfl⟩ := callSm_inv h₁
    have hd : ∀ a ∈ smActs sm sm.describeSecret.2, ∃ st, a = .sm st .describeSecret := by
      rw [smActs_of_log (SecretsManager.describeSecret_log sm)]; simp
    rcases st with _ | st
    · exact absurd h₂ throw_ne_ok
    · dsimp only at h₂
      split_ifs at h₂
      · obtain ⟨rfl, -⟩ := done_inv h₂
        simpa using hd
      · simpa [or_imp, forall_and] using ⟨hd, ih h₂⟩

theorem rollback_ne_ok {creds : NewPassword} {acts} : ¬ Runs s (Calls.rollback creds) acts (.ok ()) := fun h => by
  obtain ⟨d, a₁, a₂, rfl, -, h⟩ := bind_ok h
  dsimp only at h
  split_ifs at h <;> obtain ⟨_, a₃, a₄, rfl, h₃, h⟩ := bind_ok h
  · exact throw_ne_ok h₃
  · obtain ⟨⟨ns, _⟩, a₅, a₆, rfl, -, h⟩ := bind_ok h
    obtain ⟨_, a₇, a₈, rfl, -, h⟩ := bind_ok h
    exact throw_ne_ok h

theorem createSecret_ok {r : Rotator δ} {acts} (h : Runs s (Calls.createSecret r) acts (.ok ())) :
    ∃ (st : Store) (c : String) (rest : List Act), acts = .sm st (.getSecretValue AWSCURRENT (some c)) :: rest ∧
      ((∃ st' str, rest = [.sm st' (.putSecretValue r.clientRequestToken str [AWSPENDING])]) ∨
        (∃ st' st'' str, rest = [.sm st' (.getSecretValue AWSPENDING none),
          .sm st'' (.putSecretValue r.clientRequestToken str [AWSPENDING])]) ∨
        ∃ st', rest = [.sm st' (.getSecretValue AWSPENDING (some r.clientRequestToken))]) := by
  obtain ⟨⟨cur, curVals⟩, a₁, a₂, rfl, h₁, h₂⟩ := bind_ok h
  obtain ⟨smc, rfl, -, -⟩ := getSecret_ok h₁
  refine ⟨smc.store, cur.versionId, a₂, rfl, ?_⟩
  clear h h₁
  dsimp only at h₂
  split_ifs at h₂ with hT hc
  · exact absurd h₂ throw_ne_ok
  · exact absurd h₂ throw_ne_ok
  · simp only [Prog.pure_bind'] at h₂
    obtain ⟨d, a₃, a₄, rfl, h₃, h₄⟩ := bind_ok h₂
    replace h₃ := attempt_inv h₃
    rcases d with e | ⟨pen, penVals⟩
    · dsimp only at h₄
      split_ifs at h₄ with hcode
      · obtain ⟨st', str, rfl⟩ := putRotated_ok h₄
        obtain ⟨smp, rfl⟩ := getSecret_error_aws h₃ (by simp [hcode])
        exact .inr (.inl ⟨_, _, _, rfl⟩)
      · exact absurd h₄ throw_ne_ok
    · dsimp only at h₄
      split_ifs at h₄ with hp
      · obtain ⟨rfl, -⟩ := done_inv h₄
        obtain ⟨smp, rfl, -, -⟩ := getSecret_ok h₃
        exact .inr (.inr ⟨_, by rw [hp]; rfl⟩)
      · exact absurd h₄ throw_ne_ok
  · obtain ⟨st', str, rfl⟩ := putRotated_ok h₂
    exact .inl ⟨_, _, rfl⟩

theorem applyPending_ok {r : Rotator δ} {call : NewPassword → DbCall} {acts}
    (h : Runs s (Calls.applyPending r call) acts (.ok ())) :
    acts = [] ∨ ∃ (stp stc : Store) (p c : String) (vals curVals : StrMap),
      acts = [.sm stp (.getSecretValue AWSPENDING (some p)), .sm stc (.getSecretValue AWSCURRENT (some c)),
        .db (call ⟨⟨(r.ss.credentials curVals).1, "", (r.ss.credentials curVals).2⟩,
          ⟨(r.ss.credentials vals).1, "", (r.ss.credentials vals).2⟩⟩)] ∧
      stp.holder AWSPENDING = some p ∧ readSecret ((stp.secretString p).getD none) = .ok vals := by
  unfold Calls.applyPending at h
  split_ifs at h with hskip
  · exact .inl (done_inv h).1
  · simp only [Prog.pure_bind'] at h
    obtain ⟨⟨pen, vals⟩, a₁, a₂, rfl, h₁, h₂⟩ := bind_ok h
    obtain ⟨⟨cur, curVals⟩, a₃, a₄, rfl, h₃, h₄⟩ := bind_ok h₂
    obtain ⟨d, a₅, a₆, rfl, h₅, h₆⟩ := bind_ok h₄
    obtain ⟨stp, rfl, hp, hv⟩ := getSecret_ok h₁
    obtain ⟨stc, rfl, -, -⟩ := getSecret_ok h₃
    rw [callDb_inv (attempt_inv h₅)]
    split_ifs at h₆
    · exact absurd h₆ rollback_ne_ok
    · obtain ⟨rfl, -⟩ := done_inv h₆
      exact .inr ⟨_, _, _, _, _, _, rfl, hp, hv⟩

theorem finishSecret_ok {r : Rotator δ} {acts} (h : Runs s (Calls.finishSecret r) acts (.ok ())) :
    ∃ (stc stp st st' : Store) (c p : String) (vals : StrMap) (polls : List Act),
      acts = [.sm stc (.getSecretValue AWSCURRENT (some c)), .sm stp (.getSecretValue AWSPENDING (some p)),
        .sm st (.updateSecretVersionStage AWSCURRENT (some c) (some p))] ++ polls ++
        [.sm st' (.updateSecretVersionStage AWSPENDING (some p) none)] ∧
      (∀ a ∈ polls, ∃ st, a = .sm st .describeSecret) ∧
      stp.holder AWSPENDING = some p ∧ readSecret ((stp.secretString p).getD none) = .ok vals := by
  obtain ⟨⟨cur, _⟩, a₁, a₂, rfl, h₁, h₂⟩ := bind_ok h
  obtain ⟨⟨pen, vals⟩, a₃, a₄, rfl, h₃, h₄⟩ := bind_ok h₂
  obtain ⟨_, a₅, a₆, rfl, h₅, h₆⟩ := bind_ok h₄
  obtain ⟨_, a₇, a₈, rfl, h₇, h₈⟩ := bind_ok h₆
  obtain ⟨_, a₉, a₁₀, rfl, h₉, h₁₀⟩ := bind_ok h₈
  obtain ⟨stc, rfl, -, -⟩ := getSecret_ok h₁
  obtain ⟨stp, rfl, hp, hv⟩ := getSecret_ok h₃
  obtain ⟨sm, -, rfl⟩ := callSm_inv h₅
  obtain ⟨sm', -, rfl⟩ := callSm_inv (attempt_inv h₉)
  obtain ⟨rfl, -⟩ := done_inv h₁₀
  refine ⟨stc.store, stp.store, sm.store, sm'.store, cur.versionId, pen.versionId, vals, a₇, ?_,
    pollReplication_ok h₇, hp, hv⟩
  rw [smActs_of_log (SecretsManager.updateSecretVersionStage_log sm _ _ _),
    smActs_of_log (SecretsManager.updateSecretVersionStage_log sm' _ _ _)]
  simp

theorem handler_ok {r : Rotator δ} {event : StrMap} {acts} (hi : invokedBySecretsManager event = true)
    (h : Runs s (Calls.handler r event) acts (.ok ())) :
    ∃ acts', acts = .db (.init event) :: acts' ∧
      let r' := { r with clientRequestToken := event.get "ClientRequestToken", secretId := event.get "SecretId" }
      (event.get "Step" = "createSecret" ∧ Runs s (Calls.createSecret r') acts' (.ok ())) ∨
      (event.get "Step" = "setSecret" ∧ Runs s (Calls.setSecret r') acts' (.ok ())) ∨
      (event.get "Step" = "testSecret" ∧ Runs s (Calls.testSecret r') acts' (.ok ())) ∨
      (event.get "Step" = "finishSecret" ∧ Runs s (Calls.finishSecret r') acts' (.ok ())) := by
  unfold Calls.handler at h
  rw [if_neg (by simp [hi])] at h
  simp only [Prog.pure_bind'] at h
  split at h
  · exact absurd h throw_ne_ok
  · obtain ⟨_, a₁, a₂, rfl, h₁, h₂⟩ := bind_ok h
    refine ⟨a₂, by rw [callDb_inv h₁]; rfl, ?_⟩
    split at h₂ <;> rename_i hs
    · exact .inl ⟨hs, h₂⟩
    · exact .inr (.inl ⟨hs, h₂⟩)
    · exact .inr (.inr (.inl ⟨hs, h₂⟩))
    · exact .inr (.inr (.inr ⟨hs, h₂⟩))
    · exact absurd h₂ throw_ne_ok

variable {ss : SecretSetter} {token step : String}

theorem createSecret_acts_on_read {r : Rotator δ} {acts} (h : Runs s (Calls.createSecret r) acts (.ok ()))
    (hstep : step = "createSecret") (event : StrMap) :
    ActsOnRead ss r.clientRequestToken step (.db (.init event) :: acts) := by
  obtain ⟨st, c, rest, rfl, ⟨st', str, rfl⟩ | ⟨st', st'', str, rfl⟩ | ⟨st', rfl⟩⟩ := createSecret_ok h <;>
    simp [ActsOnRead, hstep, Act.actedOn, Call.actedOn, AWSCURRENT_ne_AWSPENDING]

theorem applyPending_acts_on_read {r : Rotator δ} {call : NewPassword → DbCall} {acts}
    (hcall : call = .setPassword ∨ call = .verifyPassword) (h : Runs s (Calls.applyPending r call) acts (.ok ()))
    (hstep : step ≠ "createSecret") (event : StrMap) :
    ActsOnRead r.ss token step (.db (.init event) :: acts) := by
  rcases applyPending_ok h with rfl | ⟨stp, stc, p, c, vals, curVals, rfl, hp, hv⟩
  · simp [ActsOnRead, hstep, Act.actedOn]
  · have hr : ∀ l, ReadPending (.db (.init event) :: .sm stp (.getSecretValue AWSPENDING (some p)) :: l) p vals :=
      fun _ => ⟨stp, by simp, hp, hv⟩
    refine ⟨fun h => absurd h hstep, fun _ => ⟨p, fun v hv' => ⟨?_, vals, hr _⟩⟩, ?_⟩
    · simpa [Act.actedOn, Call.actedOn, AWSCURRENT_ne_AWSPENDING] using hv'
    · rcases hcall with rfl | rfl <;> simpa using ⟨p, vals, hr _, rfl, rfl⟩

theorem finishSecret_acts_on_read {r : Rotator δ} {acts} (h : Runs s (Calls.finishSecret r) acts (.ok ()))
    (hstep : step ≠ "createSecret") (event : StrMap) :
    ActsOnRead ss token step (.db (.init event) :: acts) := by
  obtain ⟨stc, stp, st, st', c, p, vals, polls, rfl, hpolls, hp, hv⟩ := finishSecret_ok h
  have hpoll : ∀ a ∈ polls, a.actedOn = none ∧ ∀ c, a ≠ .db c := fun a ha => by
    obtain ⟨st, rfl⟩ := hpolls a ha
    exact ⟨rfl, nofun⟩
  have hnil : polls.filterMap Act.actedOn = [] := List.filterMap_eq_nil_iff.mpr fun a ha => (hpoll a ha).1
  refine ⟨fun h => absurd h hstep, fun _ => ⟨p, fun v hv' => ⟨?_, vals, stp, by simp, hp, hv⟩⟩, fun creds hc => ?_⟩
  · simp only [List.filterMap_cons, List.filterMap_append, List.filterMap_nil, hnil] at hv'
    simp [Act.actedOn, Call.actedOn, AWSCURRENT_ne_AWSPENDING, AWSCURRENT_ne_AWSPENDING.symm] at hv'
    exact hv'
  · simp at hc
    rcases hc with hc | hc <;> exact absurd rfl ((hpoll _ hc).2 _)

theorem handler_acts_on_read {r : Rotator δ} {event : StrMap} {acts} (hi : invokedBySecretsManager event = true)
    (h : Runs s (Calls.handler r event) acts (.ok ())) :
    ActsOnRead r.ss (event.get "ClientRequestToken") (event.get "Step") acts := by
  obtain ⟨acts, rfl, ⟨hs, hc⟩ | ⟨hs, hc⟩ | ⟨hs, hc⟩ | ⟨hs, hc⟩⟩ := handler_ok hi h
  · exact createSecret_acts_on_read hc hs event
  · exact applyPending_acts_on_read (.inl rfl) hc (by rw [hs]; decide) event
  · exact applyPending_acts_on_read (.inr rfl) hc (by rw [hs]; decide) event
  · exact finishSecret_acts_on_read hc (by rw [hs]; decide) event

end Runs

end Prog

/-! ### Two runs, their calls interleaved -/

structure Invocation where
  event : StrMap
  result : Option Error
  acts : List Act
  deriving DecidableEq

def errorOf : Except Error Unit → Option Error
  | .ok _ => none
  | .error e => some e

/-- A rotation run: its rotator, the events of the invocations still to come (retries
included), the invocation under way with what its calls did so far, and those finished. -/
structure Thread (δ : Type) where
  rotator : Rotator δ
  events : List StrMap
  current : Option (StrMap × Prog Unit × List Act)
  finished : List Invocation

namespace Thread

def step (t : Thread δ) (w : World δ) : Thread δ × World δ :=
  match t.current, t.events with
  | none, [] => (t, w)
  | none, e :: es => ({ t with events := es, current := some (e, Calls.handler t.rotator e, []) }, w)
  | some (e, .done r, acts), _ => ({ t with current := none, finished := t.finished ++ [⟨e, errorOf r, acts⟩] }, w)
  | some (e, .sm op k, acts), _ =>
    ({ t with current := some (e, k (op w.sm).1, acts ++ smActs w.sm (op w.sm).2) }, { w with sm := (op w.sm).2 })
  | some (e, .db c k, acts), _ =>
    let o := t.rotator.db.call c w.db
    ({ t with current := some (e, k (ofError o.1), acts ++ [.db c]) }, { w with db := o.2 })

theorem step_rotator (t : Thread δ) (w : World δ) : (t.step w).1.rotator = t.rotator := by
  unfold step; split <;> rfl

/-- Each finished invocation made calls its `Handler` can make, ending as it ended, and
the one under way made calls its `Handler` can go on from. -/
structure Faithful (t : Thread δ) : Prop where
  finished : ∀ i ∈ t.finished, ∃ r, (Calls.handler t.rotator i.event).Runs t.rotator.db i.acts r ∧ i.result = errorOf r
  current : ∀ e p acts, t.current = some (e, p, acts) →
    ∀ acts' r, p.Runs t.rotator.db acts' r → (Calls.handler t.rotator e).Runs t.rotator.db (acts ++ acts') r

theorem Faithful.step {t : Thread δ} (ht : t.Faithful) (w : World δ) : (t.step w).1.Faithful := by
  rcases hc : t.current with _ | ⟨e, p, acts⟩
  · rcases he : t.events with _ | ⟨e, es⟩ <;> simp only [Thread.step, hc, he]
    · exact ht
    · exact ⟨ht.finished, fun e' p acts he' acts' r h => by cases he'; exact h⟩
  · have hcur := ht.current e p acts hc
    cases p with
    | done r =>
      simp only [Thread.step, hc]
      refine ⟨fun i hi => ?_, fun _ _ _ he => nomatch he⟩
      rcases List.mem_append.mp hi with hi | hi
      · exact ht.finished i hi
      · rw [List.mem_singleton.mp hi]
        exact ⟨r, by simpa using hcur [] r (.done r), rfl⟩
    | sm op k =>
      simp only [Thread.step, hc]
      refine ⟨ht.finished, fun e' p acts'' he acts' r h => ?_⟩
      cases he
      simpa using hcur _ r (.sm w.sm h)
    | db c k =>
      simp only [Thread.step, hc]
      refine ⟨ht.finished, fun e' p acts'' he acts' r h => ?_⟩
      cases he
      simpa using hcur _ r (.db w.db h)

end Thread

inductive Turn where
  | a
  | b
  deriving DecidableEq

/-- Two rotation runs on one secret and one set of databases. -/
structure System (δ : Type) where
  world : World δ
  a : Thread δ
  b : Thread δ

namespace System

def step (s : System δ) : Turn → System δ
  | .a => let o := s.a.step s.world; { s with a := o.1, world := o.2 }
  | .b => let o := s.b.step s.world; { s with b := o.1, world := o.2 }

def run (s : System δ) (sched : List Turn) : System δ := sched.foldl step s

def start (w : World δ) (ra : Rotator δ) (ea : List StrMap) (rb : Rotator δ) (eb : List StrMap) : System δ :=
  ⟨w, ⟨ra, ea, none, []⟩, ⟨rb, eb, none, []⟩⟩

theorem run_a (s : System δ) (sched : List Turn) (ha : s.a.Faithful) :
    (s.run sched).a.Faithful ∧ (s.run sched).a.rotator = s.a.rotator := by
  induction sched generalizing s with
  | nil => exact ⟨ha, rfl⟩
  | cons t sched ih =>
    cases t
    · obtain ⟨h₁, h₂⟩ := ih (s.step .a) (ha.step s.world)
      exact ⟨h₁, h₂.trans (Thread.step_rotator _ _)⟩
    · exact ih _ ha

end System

/-- Runs A and B from any world, with any events (any tokens and steps, retries
included), their calls interleaved in any order: whenever an invocation of A for a
Secrets Manager event returns nil, it acted only on the version its token names if it
is `createSecret`, and otherwise only on the version it found carrying AWSPENDING when
it read it, setting or verifying that version's credentials. -/
theorem phases_act_on_read (w : World δ) (ra rb : Rotator δ) (ea eb : List StrMap) (sched : List Turn)
    {i : Invocation} (hi : i ∈ ((System.start w ra ea rb eb).run sched).a.finished)
    (hsm : invokedBySecretsManager i.event = true) (hnil : i.result = none) :
    ActsOnRead ra.ss (i.event.get "ClientRequestToken") (i.event.get "Step") i.acts := by
  obtain ⟨hf, hr⟩ := System.run_a (System.start w ra ea rb eb) sched ⟨nofun, nofun⟩
  obtain ⟨r, hrun, hres⟩ := hf.finished i hi
  rw [hr] at hrun
  rcases r with e | ⟨⟩
  · rw [hnil] at hres; cases hres
  · exact Prog.Runs.handler_acts_on_read hsm hrun

theorem phases_act_on_read_alone :
    let s := (System.start (smOnly oneVersion) ⟨drawA, noDb, false, "", "", 0⟩ (phases "vA")
      ⟨drawA, noDb, false, "", "", 0⟩ []).run (List.replicate 30 .a)
    let i := s.a.finished.getD 1 ⟨secretsManagerEvent "" "", none, []⟩
    i ∈ s.a.finished ∧ invokedBySecretsManager i.event = true ∧ i.result = none ∧
      ActsOnRead drawA (i.event.get "ClientRequestToken") (i.event.get "Step") i.acts :=
  ⟨by decide, by decide, by decide, phases_act_on_read (smOnly oneVersion) ⟨drawA, noDb, false, "", "", 0⟩
    ⟨drawA, noDb, false, "", "", 0⟩ (phases "vA") [] (List.replicate 30 .a) (by decide) (by decide) (by decide)⟩


variable {ε : Type}

def PasswordSetter.onPart (s : PasswordSetter δ) (get : ε → δ) (set : ε → δ → ε) : PasswordSetter ε :=
  let lift (f : δ → Option Error × δ) (e : ε) : Option Error × ε := let r := f (get e); (r.1, set e r.2)
  ⟨fun ev => lift (s.init ev), fun c => lift (s.setPassword c), fun c => lift (s.verifyPassword c),
    fun c => lift (s.rollback c)⟩

abbrev TwoContainers := Deployment × Mysql.PasswordSetter

def firstContainer : Rotator TwoContainers :=
  ⟨drawA, mysqlSetter.onPart Prod.fst fun e d => (d, e.2), false, "", "", 0⟩

def secondContainer : Rotator TwoContainers :=
  ⟨drawA, mysqlSetter.onPart (fun e => { e.1 with setter := e.2 }) (fun e d => ({ d with setter := e.1.setter }, d.setter)),
    false, "", "", 0⟩

/-- Run A's first `setSecret` fails on the network and rolls back, taking AWSPENDING off
A. A's retried `setSecret` begins (its `Init` call made) while no version carries
AWSPENDING; B's `createSecret` then puts B, and A's `setSecret` returns nil having read,
and set on the database, version B. -/
theorem interleaved_runs_cross_versions :
    let w := fresh [.error (.msg "i/o timeout")]
    let s₀ : System TwoContainers := System.start ⟨w.sm, (w.db, Mysql.newPasswordSetter ⟨none, 0, 0⟩)⟩ firstContainer
      [secretsManagerEvent "vA" "createSecret", secretsManagerEvent "vA" "setSecret", secretsManagerEvent "vA" "setSecret"]
      secondContainer [secretsManagerEvent "vB" "createSecret"]
    let s₁ := s₀.run (List.replicate 17 .a)
    let s₂ := s₁.run (List.replicate 6 .b ++ List.replicate 4 .a)
    s₁.a.current.map (fun c => (c.1, c.2.2)) =
        some (secretsManagerEvent "vA" "setSecret", [.db (.init (secretsManagerEvent "vA" "setSecret"))]) ∧
      s₁.world.sm.store.holder AWSPENDING = none ∧
      s₂.a.finished.map (·.result) = [none, some errRotationFailed, none] ∧
      s₂.a.finished.map (·.acts.filterMap Act.actedOn) = [["vA"], ["vA", "vA"], ["vB"]] ∧
      s₂.b.finished.map (·.result) = [none] := by
  decide

end PasswordRotation

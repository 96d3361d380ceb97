import PasswordRotation.Rotator

/-! `CreateSecret` when no Secrets Manager call fails: one lemma per path, and the table of
what it returns and writes from every store. -/
namespace PasswordRotation

open Json

variable {δ : Type}

theorem Store.not_mem_output_stages {st : Store} {l c : String} (h : st.holder l ≠ some c) :
    l ∉ (st.output c).versionStages :=
  fun hm => h (Store.mem_versionStages.mp hm)

/-! ### The paths through `createSecret` -/

section Paths

variable (r : Rotator δ) (w : World δ) (hf : w.sm.faults = [])
include hf

theorem createSecret_current_error {e : Error} (h : readStage w.sm.store AWSCURRENT = .error e) :
    r.createSecret w = .error e (w.logged (.getSecretValue AWSCURRENT (w.sm.store.holder AWSCURRENT))) := by
  simp only [Rotator.createSecret, bind, EStateM.bind, getSecret_of_faults_nil _ _ hf, h, resultOf]

theorem createSecret_same {cur : GetSecretValueOutput} {curVals : StrMap}
    (h : readStage w.sm.store AWSCURRENT = .ok (cur, curVals)) (ht : r.clientRequestToken = cur.versionId) :
    r.createSecret w = .error (errSameVersion r.clientRequestToken)
      (w.logged (.getSecretValue AWSCURRENT (w.sm.store.holder AWSCURRENT))) := by
  simp only [Rotator.createSecret, bind, EStateM.bind, getSecret_of_faults_nil _ _ hf, h, resultOf, if_pos ht]
  rfl

theorem createSecret_current_pending {cur : GetSecretValueOutput} {curVals : StrMap}
    (h : readStage w.sm.store AWSCURRENT = .ok (cur, curVals)) (ht : r.clientRequestToken ≠ cur.versionId)
    (hc : AWSPENDING ∈ cur.versionStages) :
    r.createSecret w = r.putRotated curVals (w.logged (.getSecretValue AWSCURRENT (w.sm.store.holder AWSCURRENT))) := by
  simp only [Rotator.createSecret, bind, EStateM.bind, getSecret_of_faults_nil _ _ hf, h, resultOf, if_neg ht,
    pure, EStateM.pure, List.contains, List.elem_eq_mem, hc, decide_True, Bool.not_true]
  rfl

theorem createSecret_pending_read {cur : GetSecretValueOutput} {curVals : StrMap}
    (h : readStage w.sm.store AWSCURRENT = .ok (cur, curVals)) (ht : r.clientRequestToken ≠ cur.versionId)
    (hc : AWSPENDING ∉ cur.versionStages) :
    let w₂ := (w.logged (.getSecretValue AWSCURRENT (w.sm.store.holder AWSCURRENT))).logged
        (.getSecretValue AWSPENDING (w.sm.store.holder AWSPENDING))
    r.createSecret w =
      match readStage w.sm.store AWSPENDING with
      | .error e => if e.code = some ErrCodeResourceNotFoundException then r.putRotated curVals w₂ else .error e w₂
      | .ok (pen, _) => if pen.versionId = r.clientRequestToken then .ok () w₂
        else .error (errAnotherPending pen.versionId) w₂ := by
  simp only [Rotator.createSecret, bind, EStateM.bind, getSecret_of_faults_nil _ _ hf, h, resultOf, if_neg ht,
    pure, EStateM.pure, List.contains, List.elem_eq_mem, hc, decide_False, Bool.not_false, if_true, attempt,
    getSecret_of_faults_nil AWSPENDING (w.logged (.getSecretValue AWSCURRENT (w.sm.store.holder AWSCURRENT))) hf,
    logged_store]
  rcases readStage w.sm.store AWSPENDING with e | ⟨pen, _⟩ <;> simp only [resultOf] <;> split_ifs <;> rfl

end Paths

/-! ### The rotate-and-put tail -/

theorem putRotated_error (r : Rotator δ) (w' : World δ) {curVals : StrMap} {e : Error}
    (h : r.ss.rotate curVals = .error e) : r.putRotated curVals w' = .error e w' := by
  simp only [Rotator.putRotated, bind, EStateM.bind, liftExcept, h]; rfl

theorem putRotated_ok (r : Rotator δ) (w' : World δ) (hf' : w'.sm.faults = []) {curVals newVals : StrMap}
    (h : r.ss.rotate curVals = .ok newVals) :
    let T := r.clientRequestToken
    let w'' := w'.logged (.putSecretValue T (marshal newVals) [AWSPENDING])
    r.putRotated curVals w' =
      if hv : w'.sm.store.hasVersion T then
        if w'.sm.store.secretString T = some (some (marshal newVals)) then .ok () w''
        else .error errResourceExists w''
      else .ok () { w'' with sm := { w''.sm with
        store := SecretsManager.putNew w'.sm.store T (marshal newVals) [AWSPENDING] hv } } := by
  simp only [Rotator.putRotated, bind, EStateM.bind, liftExcept, h, pure, EStateM.pure, callSm,
    putSecretValue_of_faults_nil hf']
  split_ifs <;> rfl

theorem putRotated_decision (r : Rotator δ) {w w' : World δ} (hf' : w'.sm.faults = [])
    (hst : w'.sm.store = w.sm.store) (hw : writes w w' = []) (hle : w.sm.log.length ≤ w'.sm.log.length)
    {curVals newVals : StrMap} (hnew : r.ss.rotate curVals = .ok newVals) :
    let st := w.sm.store
    let T := r.clientRequestToken
    let o := r.putRotated curVals w'
    writes w (resultState o) = [.putSecretValue T (marshal newVals) [AWSPENDING]] ∧
      (¬ st.hasVersion T → resultError o = none ∧
        (∀ l, (resultState o).sm.store.holder l = if l = AWSPENDING then some T else st.holder l) ∧
        (readStage (resultState o).sm.store AWSPENDING).map Prod.snd = .ok newVals) ∧
      (st.hasVersion T → (resultState o).sm.store = st ∧
        resultError o = if st.secretString T = some (some (marshal newVals)) then none
          else some errResourceExists) := by
  intro st T o
  have hput : writes w (w'.logged (.putSecretValue T (marshal newVals) [AWSPENDING])) =
      [.putSecretValue T (marshal newVals) [AWSPENDING]] := by
    rw [writes_logged_of_le _ hle, hw]; rfl
  simp only [o, putRotated_ok r w' hf' hnew, hst]
  refine ⟨?_, fun hv => ?_, fun hv => ?_⟩
  · split_ifs <;> exact hput
  · rw [dif_neg hv]
    refine ⟨rfl, fun l => ?_, ?_⟩
    · simp only [resultState, World.logged, SecretsManager.putNew_pending]
      by_cases hl : l = AWSPENDING
      · simp [hl]
      · rw [Store.holder_move_of_ne _ _ _ hl (by decide), Store.holder_addVersion, if_neg hl]
    · simp only [resultState, World.logged, SecretsManager.putNew_pending, readStage, Store.holder_move_self]
      simp [Store.output, Store.secretString, Store.move, Store.addVersion, List.lookup_cons, readSecret_marshal,
        Except.map]
  · rw [dif_pos hv]
    split_ifs <;> exact ⟨hst, rfl⟩

/-! ### The decision table -/

/-- What `createSecret` does from `w` (`o` its result), by what the store holds: the
current value unreadable; the token already current; another version `p` pending,
readable or not; and the path to the put, when the current version is pending or none
is. A new version `T` takes AWSPENDING and no other label; an existing one is left as
it is. -/
def CreateSecretDecision (r : Rotator δ) (w : World δ) : Prop :=
  let st := w.sm.store
  let T := r.clientRequestToken
  let o := r.createSecret w
  (∀ e, readStage st AWSCURRENT = .error e → resultError o = some e ∧ Untouched w o) ∧
  ∀ c curVals, readStage st AWSCURRENT = .ok (st.output c, curVals) →
    (T = c → resultError o = some (errSameVersion T) ∧ Untouched w o) ∧
    (T ≠ c → ∀ p, st.holder AWSPENDING = some p → p ≠ c →
      (∀ e, readStage st AWSPENDING = .error e → resultError o = some e ∧ Untouched w o) ∧
      (∀ penVals, readStage st AWSPENDING = .ok (st.output p, penVals) →
        resultError o = (if p = T then none else some (errAnotherPending p)) ∧ Untouched w o)) ∧
    (T ≠ c → (st.holder AWSPENDING = some c ∨ st.holder AWSPENDING = none) →
      (∀ e, r.ss.rotate curVals = .error e → resultError o = some e ∧ Untouched w o) ∧
      ∀ newVals, r.ss.rotate curVals = .ok newVals →
        writes w (resultState o) = [.putSecretValue T (marshal newVals) [AWSPENDING]] ∧
        (¬ st.hasVersion T → resultError o = none ∧
          (∀ l, (resultState o).sm.store.holder l = if l = AWSPENDING then some T else st.holder l) ∧
          (readStage (resultState o).sm.store AWSPENDING).map Prod.snd = .ok newVals) ∧
        (st.hasVersion T → (resultState o).sm.store = st ∧
          resultError o = if st.secretString T = some (some (marshal newVals)) then none
            else some errResourceExists))

theorem createSecret_decision (r : Rotator δ) (w : World δ) (hf : w.sm.faults = []) :
    CreateSecretDecision r w := by
  unfold CreateSecretDecision
  intro st T o
  refine ⟨fun e he => ?_, fun c curVals hcur => ⟨fun hT => ?_, fun hT p hp hpc => ?_, fun hT hpen => ?_⟩⟩
  · rw [show o = _ from createSecret_current_error r w hf he]
    exact ⟨rfl, by rw [resultState, writes_logged]; rfl, rfl⟩
  · rw [show o = _ from createSecret_same r w hf hcur hT]
    exact ⟨rfl, by rw [resultState, writes_logged]; rfl, rfl⟩
  · have hc : AWSPENDING ∉ (st.output c).versionStages :=
      Store.not_mem_output_stages (by rw [hp]; exact fun h => hpc (Option.some.inj h))
    rw [show o = _ from createSecret_pending_read r w hf hcur hT hc]
    have hu : writes w ((w.logged (.getSecretValue AWSCURRENT (st.holder AWSCURRENT))).logged
        (.getSecretValue AWSPENDING (st.holder AWSPENDING))) = [] := by rw [writes_logged_logged]; rfl
    refine ⟨fun e he => ?_, fun penVals hpen => ?_⟩
    · simp only [he, readStage_error_code hp he, reduceCtorEq, if_false]
      exact ⟨rfl, hu, rfl⟩
    · simp only [hpen, Store.output]
      split_ifs <;> exact ⟨rfl, hu, rfl⟩
  · obtain ⟨w', ho, hf', hst, hw, hle⟩ : ∃ w', o = r.putRotated curVals w' ∧ w'.sm.faults = [] ∧
        w'.sm.store = st ∧ writes w w' = [] ∧ w.sm.log.length ≤ w'.sm.log.length := by
      rcases hpen with hpen | hpen
      · exact ⟨_, createSecret_current_pending r w hf hcur hT (Store.mem_versionStages.mpr hpen), hf, rfl,
          by rw [writes_logged]; rfl, by simp [World.logged]⟩
      · have hc : AWSPENDING ∉ (st.output c).versionStages := Store.not_mem_output_stages (by simp [hpen])
        have hrd : readStage st AWSPENDING = .error (errStageNotFound AWSPENDING) := by simp [readStage, hpen]
        refine ⟨(w.logged (.getSecretValue AWSCURRENT (st.holder AWSCURRENT))).logged
          (.getSecretValue AWSPENDING (st.holder AWSPENDING)), ?_, hf, rfl,
          by rw [writes_logged_logged]; rfl, by simp [World.logged]⟩
        rw [show o = _ from createSecret_pending_read r w hf hcur hT hc, hrd]
        exact if_pos rfl
    refine ⟨fun e he => ?_, fun newVals hnew => ?_⟩
    · rw [ho, putRotated_error r w' he]; exact ⟨rfl, hw, hst⟩
    · rw [ho]; exact putRotated_decision r hf' hst hw hle hnew

/-! ### Sample stores -/

def oneVersion : Store where
  versions := [("v1", some "\x7b\"password\":\"old\",\"username\":\"app\"\x7d")]
  stages := [(AWSCURRENT, "v1")]
  versions_nodup := by decide
  stages_nodup := by decide
  stages_exist := by decide

def drawA : SecretSetter := RandomPassword fun _ => ⟨0, by decide⟩

def noDb : PasswordSetter Unit :=
  ⟨fun _ _ => (none, ()), fun _ _ => (none, ()), fun _ _ => (none, ()), fun _ _ => (none, ())⟩

def smOnly (st : Store) : World Unit := ⟨⟨st, [], [], []⟩, ()⟩

theorem createSecret_decision_oneVersion :
    (smOnly oneVersion).sm.faults = [] ∧
      CreateSecretDecision (⟨drawA, noDb, false, "vT", "", 0⟩ : Rotator Unit) (smOnly oneVersion) :=
  ⟨rfl, createSecret_decision _ _ rfl⟩

/-- A version `vT` with no label that already holds the value the rotation computes (as
a rollback leaves it): `createSecret` with token `vT` puts that value again, Secrets
Manager accepts the put without change, and the phase returns nil with AWSPENDING on no
version. -/
theorem createSecret_put_leaves_no_pending :
    let r : Rotator Unit := ⟨drawA, noDb, false, "vT", "", 0⟩
    let rotated := "\x7b\"password\":\"AAAAAAAAAAAAAAAAAAAA\",\"username\":\"app\"\x7d"
    let unlabelled := oneVersion.addVersion "vT" rotated (by decide)
    let o := r.createSecret (smOnly unlabelled)
    resultError o = none ∧ writes (smOnly unlabelled) (resultState o) = [.putSecretValue "vT" rotated [AWSPENDING]] ∧
      (resultState o).sm.store.holder AWSPENDING = none := by
  decide

end PasswordRotation

import PasswordRotation.Protocol
import PasswordRotation.Rotation

/-! The rotator refines the rotation protocol: whatever the invocations and whatever calls
fail, a run changes the store only by protocol steps. -/
namespace PasswordRotation

open Json Relation

variable {δ α β : Type}

/-! ### Inverting a run -/

theorem bind_ok {x : Run δ α} {f : α → Run δ β} {w w' : World δ} {b : β}
    (h : (x >>= f) w = .ok b w') : ∃ a w₁, x w = .ok a w₁ ∧ f a w₁ = .ok b w' := by
  simp only [bind, EStateM.bind] at h
  split at h
  · exact ⟨_, _, ‹_›, h⟩
  · cases h

theorem pure_ok {a b : α} {w w' : World δ} (h : (pure a : Run δ α) w = .ok b w') : a = b ∧ w = w' := by
  cases h; exact ⟨rfl, rfl⟩

theorem liftExcept_ok {x : Except Error α} {a : α} {w w' : World δ} (h : liftExcept x w = .ok a w') :
    x = .ok a ∧ w = w' := by
  cases x <;> cases h; exact ⟨rfl, rfl⟩

theorem callSm_ok {op : SecretsManager → Except Error α × SecretsManager} {w w' : World δ} {a : α}
    (h : callSm op w = .ok a w') : op w.sm = (.ok a, w'.sm) := by
  unfold callSm at h
  split at h <;> cases h; assumption

theorem callSm_sm (op : SecretsManager → Except Error α × SecretsManager) (w : World δ) :
    (resultState (callSm op w)).sm = (op w.sm).2 := by
  unfold callSm; split <;> simp_all [resultState]

theorem callDb_sm (op : δ → Option Error × δ) (w : World δ) : (resultState (callDb op w)).sm = w.sm := by
  unfold callDb; split <;> rfl

theorem getSecret_ok {stage : String} {w w' : World δ} {s : GetSecretValueOutput} {vals : StrMap}
    (h : Rotator.getSecret stage w = .ok (s, vals) w') :
    w.sm.store.holder stage = some s.versionId ∧ w'.sm.store = w.sm.store ∧
      w'.sm.log = w.sm.log ++ [.getSecretValue stage (some s.versionId)] := by
  obtain ⟨s', w₁, h1, h⟩ := bind_ok h
  obtain ⟨v, w₂, h2, h⟩ := bind_ok h
  obtain ⟨he, hw⟩ := pure_ok h
  obtain ⟨-, hw'⟩ := liftExcept_ok h2
  subst w₂ w₁
  cases he
  have hc := callSm_ok h1
  have hr : (w.sm.getSecretValue stage).1 = .ok s := by rw [hc]
  have hsm : w'.sm = (w.sm.getSecretValue stage).2 := by rw [hc]
  refine ⟨SecretsManager.getSecretValue_ok hr, ?_, ?_⟩
  · rw [hsm, SecretsManager.getSecretValue_store]
  · rw [hsm, SecretsManager.getSecretValue_log, hr]; rfl

theorem getSecret_ok_read {stage : String} {w w' : World δ} {s : GetSecretValueOutput} {vals : StrMap}
    (h : Rotator.getSecret stage w = .ok (s, vals) w') :
    readSecret ((w.sm.store.secretString s.versionId).getD none) = .ok vals := by
  obtain ⟨s', w₁, h1, h⟩ := bind_ok h
  obtain ⟨v, w₂, h2, h⟩ := bind_ok h
  obtain ⟨he, -⟩ := pure_ok h
  obtain ⟨hv, -⟩ := liftExcept_ok h2
  cases he
  rw [← SecretsManager.getSecretValue_secretString (by rw [callSm_ok h1]), hv]

/-! ### The calls the rotator makes -/

namespace SecretsManager

theorem putSecretValue_follows (sm : SecretsManager) (T s : String) :
    ReflTransGen ProtocolStep sm.store (sm.putSecretValue T s [AWSPENDING]).2.store := by
  simp only [putSecretValue, ← sm.next_store]
  repeat' split
  all_goals first | exact .refl | exact .single (.stage _ _ _ _)

theorem updateSecretVersionStage_unstage (sm : SecretsManager) (v : String) :
    ReflTransGen ProtocolStep sm.store (sm.updateSecretVersionStage AWSPENDING (some v) none).2.store := by
  simp only [updateSecretVersionStage, ← sm.next_store]
  repeat' split
  all_goals first | exact .refl | exact .single (.unstage _)

theorem updateSecretVersionStage_promote (sm : SecretsManager) (rf : Option String) {p : String}
    (hp : sm.store.holder AWSPENDING = some p) (hr : (readSecret ((sm.store.secretString p).getD none)).toBool) :
    ReflTransGen ProtocolStep sm.store (sm.updateSecretVersionStage AWSCURRENT rf (some p)).2.store := by
  simp only [updateSecretVersionStage, ← sm.next_store] at hp hr ⊢
  repeat' split
  all_goals first | exact .refl | exact .single (.promote _ _ hp hr)

end SecretsManager

/-! ### Runs that follow the protocol -/

/-- A run changes the store only by steps of the protocol, whatever it returns. -/
def Follows (x : Run δ α) : Prop :=
  ∀ w : World δ, ReflTransGen ProtocolStep w.sm.store (resultState (x w)).sm.store

namespace Follows

theorem bind_at {x : Run δ α} {f : α → Run δ β} {w : World δ}
    (hx : ReflTransGen ProtocolStep w.sm.store (resultState (x w)).sm.store)
    (hf : ∀ a w₁, x w = .ok a w₁ → ReflTransGen ProtocolStep w₁.sm.store (resultState (f a w₁)).sm.store) :
    ReflTransGen ProtocolStep w.sm.store (resultState ((x >>= f) w)).sm.store := by
  simp only [Bind.bind, EStateM.bind]
  rcases hxw : x w with ⟨a, w₁⟩ | ⟨e, w₁⟩ <;> rw [hxw] at hx
  · exact hx.trans (hf a w₁ hxw)
  · exact hx

theorem bind {x : Run δ α} {f : α → Run δ β} (hx : Follows x) (hf : ∀ a, Follows (f a)) :
    Follows (x >>= f) := fun w => bind_at (hx w) fun a w₁ _ => hf a w₁

theorem pure (a : α) : Follows (pure a : Run δ α) := fun _ => .refl

theorem throw (e : Error) : Follows (throw e : Run δ α) := fun _ => .refl

theorem liftExcept (x : Except Error α) : Follows (liftExcept x : Run δ α) := by
  cases x
  · exact throw _
  · exact pure _

theorem attempt {x : Run δ α} (hx : Follows x) : Follows (attempt x) := fun w => by
  have := hx w
  unfold PasswordRotation.attempt
  split <;> rename_i hxw <;> rw [hxw] at this <;> exact this

theorem callDb (op : δ → Option Error × δ) : Follows (callDb op) := fun w => by
  rw [callDb_sm]

theorem callSm {op : SecretsManager → Except Error α × SecretsManager}
    (hop : ∀ sm : SecretsManager, ReflTransGen ProtocolStep sm.store (op sm).2.store) :
    Follows (callSm op : Run δ α) := fun w => by
  rw [callSm_sm]; exact hop _

theorem ite {c : Prop} [Decidable c] {x y : Run δ α} (hx : Follows x) (hy : Follows y) :
    Follows (if c then x else y) := by
  split
  · exact hx
  · exact hy

theorem getSecret (stage : String) : Follows (Rotator.getSecret stage : Run δ _) :=
  .bind (.callSm fun sm => by rw [SecretsManager.getSecretValue_store])
    fun _ => .bind (.liftExcept _) fun _ => .pure _

theorem pollReplication (secretId : String) (n : Nat) :
    Follows (Rotator.pollReplication secretId n : Run δ Unit) := by
  induction n with
  | zero => exact .throw _
  | succ n ih =>
    unfold Rotator.pollReplication
    refine .bind (.callSm fun sm => by rw [SecretsManager.describeSecret_store]) fun st => ?_
    rcases st with _ | st
    · exact .throw _
    · exact .ite (.pure _) ih

end Follows

/-! ### Every phase follows the protocol -/

section Phases

variable (r : Rotator δ)

theorem putRotated_follows (curVals : StrMap) : Follows (r.putRotated curVals) :=
  .bind (.liftExcept _) fun _ => .callSm fun sm => sm.putSecretValue_follows _ _

theorem createSecret_follows : Follows r.createSecret := by
  unfold Rotator.createSecret
  refine .bind (.getSecret _) fun ⟨cur, vals⟩ => ?_
  have hput := putRotated_follows r vals
  -- the code after the same-version check is a join point, reached from both branches
  refine .ite (.bind (.throw _) fun _ => ?_) (.bind (.pure _) fun _ => ?_) <;>
    refine .ite (.bind (.attempt (.getSecret _)) fun d => ?_) (.bind (.pure _) fun _ => hput) <;>
    rcases d with e | ⟨pen, _⟩
  all_goals first
    | exact .ite (.bind (.pure _) fun _ => hput) (.bind (.throw _) fun _ => hput)
    | exact .ite (.pure _) (.bind (.throw _) fun _ => hput)

theorem rollback_follows (creds : NewPassword) : Follows (r.rollback creds) := by
  unfold Rotator.rollback
  refine .bind (.attempt (.callDb _)) fun _ => ?_
  refine .ite (.bind (.throw _) fun _ => ?_) (.bind (.pure _) fun _ => ?_) <;>
    exact .bind (.getSecret _) fun ⟨_, _⟩ => .bind (.attempt (.callSm fun sm =>
      sm.updateSecretVersionStage_unstage _)) fun _ => .throw _

theorem applyPending_follows (call : NewPassword → δ → Option Error × δ) : Follows (r.applyPending call) := by
  unfold Rotator.applyPending
  exact .ite (.pure _) (.bind (.pure _) fun _ => .bind (.getSecret _) fun _ => .bind (.getSecret _) fun _ =>
    .bind (.attempt (.callDb _)) fun _ => .ite (rollback_follows r _) (.pure _))

theorem setSecret_follows : Follows r.setSecret := applyPending_follows r _

theorem testSecret_follows : Follows r.testSecret := applyPending_follows r _

theorem finishSecret_follows : Follows r.finishSecret := by
  unfold Rotator.finishSecret
  refine .bind (.getSecret _) fun ⟨cur, _⟩ w₁ => ?_
  refine Follows.bind_at (Follows.getSecret _ w₁) fun ⟨pen, vals⟩ w₂ h2 => ?_
  have hp : w₂.sm.store.holder AWSPENDING = some pen.versionId := by
    rw [(getSecret_ok h2).2.1]; exact (getSecret_ok h2).1
  have hread : (readSecret ((w₂.sm.store.secretString pen.versionId).getD none)).toBool := by
    rw [(getSecret_ok h2).2.1, getSecret_ok_read h2]; rfl
  refine Follows.bind_at ?_ fun _ w₃ _ => Follows.bind (.pollReplication _ _)
    (fun _ => .bind (.attempt (.callSm fun sm => sm.updateSecretVersionStage_unstage _)) fun _ => .pure _) w₃
  rw [callSm_sm]
  exact w₂.sm.updateSecretVersionStage_promote _ hp hread

theorem handler_follows (event : StrMap) : Follows (r.handler event) := by
  unfold Rotator.handler
  refine .ite ?_ (.bind (.pure _) fun _ => ?_)
  · split
    · exact .bind (.throw _) fun _ => .pure _
    · exact .bind (.pure _) fun _ => .pure _
  · dsimp only
    split <;> refine .bind (by first | exact .throw _ | exact .pure _) fun _ => .bind (.callDb _) fun _ => ?_ <;>
      split
    all_goals with_reducible first
      | exact createSecret_follows _ | exact setSecret_follows _ | exact testSecret_follows _
      | exact finishSecret_follows _ | exact .throw _

end Phases

/-! ### Whole runs -/

theorem invoke_follows (r : Rotator δ) (event : StrMap) (w : World δ) :
    ReflTransGen ProtocolStep w.sm.store (r.invoke event w).2.sm.store := by
  have := handler_follows r event w
  unfold Rotator.invoke
  split <;> rename_i hw <;> rw [hw] at this <;> exact this

/-- However invocations of any steps and tokens follow one another, and whatever calls
fail, the store moves from one invocation to the next only by steps of the rotation
protocol. -/
theorem runAll_follows (r : Rotator δ) (events : List StrMap) (w : World δ) :
    ReflTransGen ProtocolStep w.sm.store (r.runAll events w).2.sm.store := by
  induction events generalizing w with
  | nil => exact .refl
  | cons e es ih => exact (invoke_follows r e w).trans (ih _)

/-- A secret whose AWSCURRENT value reads keeps one that reads after every invocation. -/
theorem runAll_readable (r : Rotator δ) (events : List StrMap) (w : World δ) (h : currentReadable w.sm.store) :
    currentReadable (r.runAll events w).2.sm.store := by
  induction events generalizing w with
  | nil => exact h
  | cons e es ih => exact ih _ (reach_readable (invoke_follows r e w) h)

theorem runAll_readable_phases :
    currentReadable (fresh []).sm.store ∧
      currentReadable (rotator.runAll (phases "vA" ++ phases "vB") (fresh [])).2.sm.store :=
  ⟨by decide, runAll_readable rotator _ _ (by decide)⟩

end PasswordRotation

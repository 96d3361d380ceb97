import PasswordRotation.Rotator

/-! The rotation protocol on the secret's store: every sequence of steps keeps AWSCURRENT
readable and keeps each version's value. -/
namespace PasswordRotation

open Json Relation

/-! ### AWSCURRENT readable -/

/-- AWSCURRENT is on a version whose value passes `getSecret`'s checks. -/
def currentReadable (st : Store) : Bool := (readStage st AWSCURRENT).toBool

theorem readStage_toBool (st : Store) (stage : String) :
    (readStage st stage).toBool =
      match st.holder stage with
      | none => false
      | some v => (readSecret ((st.secretString v).getD none)).toBool := by
  unfold readStage
  rcases st.holder stage with _ | v
  · rfl
  · simp only [Store.output]; cases readSecret ((st.secretString v).getD none) <;> rfl

theorem currentReadable_congr {st st' : Store} (hh : st'.holder AWSCURRENT = st.holder AWSCURRENT)
    (hs : ∀ v, st.holder AWSCURRENT = some v → st'.secretString v = st.secretString v) :
    currentReadable st' = currentReadable st := by
  unfold currentReadable
  rw [readStage_toBool, readStage_toBool, hh]
  split
  · rfl
  · rw [hs _ ‹_›]

theorem currentReadable_move_of_ne (st : Store) {stage : String} (v : String) (hv : st.hasVersion v)
    (h : stage ≠ AWSCURRENT) : currentReadable (st.move stage v hv) = currentReadable st :=
  currentReadable_congr (st.holder_move_of_ne v hv h.symm h) fun _ _ => rfl

theorem currentReadable_remove_of_ne (st : Store) {stage : String} (h : stage ≠ AWSCURRENT) :
    currentReadable (st.remove stage) = currentReadable st :=
  currentReadable_congr (by simp [Ne.symm h]) fun _ _ => rfl

theorem currentReadable_putNew (st : Store) (T s : String) (hv : ¬ st.hasVersion T) :
    currentReadable (SecretsManager.putNew st T s [AWSPENDING] hv) = currentReadable st := by
  rw [SecretsManager.putNew_pending, currentReadable_move_of_ne _ _ _ AWSCURRENT_ne_AWSPENDING.symm]
  refine currentReadable_congr rfl fun c hc => st.secretString_addVersion_of_ne s hv fun h => hv ?_
  exact h ▸ Store.hasVersion_of_holder hc

theorem currentReadable_move_current (st : Store) (v : String) (hv : st.hasVersion v)
    (hr : (readSecret ((st.secretString v).getD none)).toBool) :
    currentReadable (st.move AWSCURRENT v hv) := by
  simpa [currentReadable, readStage_toBool] using hr

/-! ### The protocol -/

/-- One step of the rotation protocol on the secret's store. -/
inductive ProtocolStep : Store → Store → Prop
  | stage (st : Store) (T s : String) (hT : ¬ st.hasVersion T) :
      ProtocolStep st (SecretsManager.putNew st T s [AWSPENDING] hT)
  | unstage (st : Store) : ProtocolStep st (st.remove AWSPENDING)
  | promote (st : Store) (p : String) (hp : st.holder AWSPENDING = some p)
      (hr : (readSecret ((st.secretString p).getD none)).toBool) :
      ProtocolStep st (st.move AWSCURRENT p (Store.hasVersion_of_holder hp))

namespace ProtocolStep

variable {st st' : Store}

theorem readable (h : ProtocolStep st st') (hc : currentReadable st) : currentReadable st' := by
  cases h with
  | stage T s hT => rwa [currentReadable_putNew]
  | unstage => rwa [currentReadable_remove_of_ne _ AWSCURRENT_ne_AWSPENDING.symm]
  | promote p hp hr => exact currentReadable_move_current _ _ _ hr

theorem secretString (h : ProtocolStep st st') {v : String} {x : Option String}
    (hv : st.secretString v = some x) : st'.secretString v = some x := by
  cases h with
  | stage T s hT =>
    have hvT : v ≠ T := fun e => hT (e ▸ Store.hasVersion_of_secretString hv)
    rw [SecretsManager.secretString_putNew_pending_of_ne _ _ _ hvT, hv]
  | unstage => exact hv
  | promote => exact hv

theorem current (h : ProtocolStep st st') (hne : st'.holder AWSCURRENT ≠ st.holder AWSCURRENT) :
    st'.holder AWSCURRENT = st.holder AWSPENDING := by
  cases h with
  | stage T s hT =>
    rw [SecretsManager.holder_putNew_pending, if_neg AWSCURRENT_ne_AWSPENDING] at hne
    exact absurd rfl hne
  | unstage =>
    rw [Store.holder_remove, if_neg AWSCURRENT_ne_AWSPENDING] at hne
    exact absurd rfl hne
  | promote p hp hr => rw [Store.holder_move_self, hp]

end ProtocolStep

/-! ### Sequences of steps -/

section Reach

variable {st st' : Store}

theorem reach_readable (h : ReflTransGen ProtocolStep st st') (hc : currentReadable st) :
    currentReadable st' := by
  induction h with
  | refl => exact hc
  | tail _ step ih => exact step.readable ih

theorem reach_secretString (h : ReflTransGen ProtocolStep st st') {v : String} {x : Option String}
    (hv : st.secretString v = some x) : st'.secretString v = some x := by
  induction h with
  | refl => exact hv
  | tail _ step ih => exact step.secretString ih

end Reach

end PasswordRotation

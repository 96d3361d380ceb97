import PasswordRotation.Db

/-! The AWS Secrets Manager service for the one secret rotated: versions, staging labels
moved by the service's rules, replication status, faults and the log of calls. -/
namespace PasswordRotation

def AWSCURRENT : String := "AWSCURRENT"

def AWSPENDING : String := "AWSPENDING"

def AWSPREVIOUS : String := "AWSPREVIOUS"

def ErrCodeResourceNotFoundException : String := "ResourceNotFoundException"

def StatusTypeInSync : String := "InSync"

theorem AWSCURRENT_ne_AWSPENDING : AWSCURRENT ≠ AWSPENDING := by decide

namespace Stages

def detach (stage : String) (l : List (String × String)) : List (String × String) :=
  l.filter fun p => p.1 != stage

def attach (stage v : String) (l : List (String × String)) : List (String × String) :=
  (stage, v) :: detach stage l

/-- `stage` moved to `v`; moving AWSCURRENT puts AWSPREVIOUS on the version it left. -/
def moveLabel (l : List (String × String)) (stage v : String) : List (String × String) :=
  match l.lookup stage with
  | some h => if stage = AWSCURRENT ∧ h ≠ v then attach stage v (attach AWSPREVIOUS h l) else attach stage v l
  | none => attach stage v l

theorem lookup_cons_of_ne {k k' : String} {v : String} {l : List (String × String)} (h : k' ≠ k) :
    ((k, v) :: l).lookup k' = l.lookup k' := by
  simp [List.lookup_cons, beq_false_of_ne h]

theorem lookup_detach (stage s : String) (l : List (String × String)) :
    (detach stage l).lookup s = if s = stage then none else l.lookup s := by
  induction l with
  | nil => simp [detach, List.lookup_cons]
  | cons p l ih =>
    obtain ⟨k, v⟩ := p
    by_cases hk : k = stage
    · subst hk
      rw [show detach k ((k, v) :: l) = detach k l by simp [detach], ih]
      by_cases hs : s = k
      · simp [hs]
      · simp [hs, lookup_cons_of_ne hs]
    · rw [show detach stage ((k, v) :: l) = (k, v) :: detach stage l by simp [detach, hk]]
      by_cases hs : s = k
      · subst hs; simp [List.lookup_cons, hk]
      · rw [lookup_cons_of_ne hs, ih, lookup_cons_of_ne hs]

theorem mem_of_lookup {l : List (String × String)} {k v : String} (h : l.lookup k = some v) :
    (k, v) ∈ l := by
  induction l with
  | nil => simp [List.lookup_cons] at h
  | cons p l ih =>
    obtain ⟨k', v'⟩ := p
    by_cases hk : k = k'
    · subst hk; simp [List.lookup_cons] at h; simp [h]
    · rw [lookup_cons_of_ne hk] at h; exact List.mem_cons_of_mem _ (ih h)

theorem lookup_eq_some_iff {l : List (String × String)} (hnd : (l.map Prod.fst).Nodup) {k v : String} :
    l.lookup k = some v ↔ (k, v) ∈ l := by
  refine ⟨mem_of_lookup, fun h => ?_⟩
  induction l with
  | nil => cases h
  | cons p l ih =>
    obtain ⟨k', v'⟩ := p
    simp only [List.map_cons, List.nodup_cons] at hnd
    by_cases hk : k = k'
    · subst hk
      have hv : v' = v := by
        rcases List.mem_cons.mp h with h | h
        · exact (Prod.mk.inj h).2.symm
        · exact absurd (List.mem_map.mpr ⟨_, h, rfl⟩) hnd.1
      simp [List.lookup_cons, hv]
    · rw [lookup_cons_of_ne hk]
      exact ih hnd.2 ((List.mem_cons.mp h).resolve_left fun e => hk (Prod.mk.inj e).1)

theorem lookup_attach (stage v s : String) (l : List (String × String)) :
    (attach stage v l).lookup s = if s = stage then some v else l.lookup s := by
  by_cases hs : s = stage
  · subst hs; simp [attach, List.lookup_cons]
  · simp [attach, lookup_cons_of_ne hs, lookup_detach, hs]

theorem lookup_moveLabel_self (l : List (String × String)) (stage v : String) :
    (moveLabel l stage v).lookup stage = some v := by
  unfold moveLabel
  split <;> (try split) <;> simp [lookup_attach]

theorem lookup_moveLabel_of_ne (l : List (String × String)) {stage s : String} (v : String)
    (hs : s ≠ stage) (hc : stage ≠ AWSCURRENT) : (moveLabel l stage v).lookup s = l.lookup s := by
  unfold moveLabel
  split <;> (try split) <;> simp_all [lookup_attach]

theorem keys_detach_sublist (stage : String) (l : List (String × String)) :
    ((detach stage l).map Prod.fst).Sublist (l.map Prod.fst) :=
  (List.filter_sublist l).map _

theorem nodup_attach (stage v : String) {l : List (String × String)} (h : (l.map Prod.fst).Nodup) :
    ((attach stage v l).map Prod.fst).Nodup := by
  simp only [attach, List.map_cons, List.nodup_cons]
  refine ⟨fun hm => ?_, h.sublist (keys_detach_sublist stage l)⟩
  obtain ⟨p, hp, rfl⟩ := List.mem_map.mp hm
  simp [detach] at hp

theorem mem_attach {stage v : String} {l : List (String × String)} {p : String × String}
    (h : p ∈ attach stage v l) : p = (stage, v) ∨ p ∈ l := by
  simp only [attach, List.mem_cons] at h
  exact h.imp id (List.mem_of_mem_filter ·)

theorem nodup_moveLabel {l : List (String × String)} (h : (l.map Prod.fst).Nodup) (stage v : String) :
    ((moveLabel l stage v).map Prod.fst).Nodup := by
  unfold moveLabel
  split <;> (try split) <;> exact nodup_attach _ _ (by first | exact nodup_attach _ _ h | exact h)

theorem mem_moveLabel {l : List (String × String)} {stage v : String} {p : String × String}
    (h : p ∈ moveLabel l stage v) : p.2 = v ∨ p.2 ∈ l.map Prod.snd := by
  unfold moveLabel at h
  split at h
  · rename_i hv hl
    split at h
    · rcases mem_attach h with rfl | h
      · exact .inl rfl
      rcases mem_attach h with rfl | h
      · exact .inr (List.mem_map.mpr ⟨_, mem_of_lookup hl, rfl⟩)
      · exact .inr (List.mem_map_of_mem _ h)
    · rcases mem_attach h with rfl | h
      · exact .inl rfl
      · exact .inr (List.mem_map_of_mem _ h)
  · rcases mem_attach h with rfl | h
    · exact .inl rfl
    · exact .inr (List.mem_map_of_mem _ h)

end Stages

/-! ### The secret's store -/

/-- The versions of the secret (id ↦ `SecretString`, `none` for nil) and its staging
labels (label ↦ version id): each version id once, each label on at most one
version, and only on a version that exists. -/
structure Store where
  versions : List (String × Option String)
  stages : List (String × String)
  versions_nodup : (versions.map Prod.fst).Nodup
  stages_nodup : (stages.map Prod.fst).Nodup
  stages_exist : ∀ p ∈ stages, p.2 ∈ versions.map Prod.fst

namespace Store

def holder (st : Store) (stage : String) : Option String := st.stages.lookup stage

def secretString (st : Store) (v : String) : Option (Option String) := st.versions.lookup v

def versionStages (st : Store) (v : String) : List String :=
  (st.stages.filter fun p => p.2 = v).map Prod.fst

theorem mem_versionStages {st : Store} {l v : String} : l ∈ st.versionStages v ↔ st.holder l = some v := by
  rw [holder, Stages.lookup_eq_some_iff st.stages_nodup]
  simp [versionStages]

def hasVersion (st : Store) (v : String) : Bool := st.versions.any fun p => p.1 = v

theorem hasVersion_iff (st : Store) (v : String) : st.hasVersion v ↔ v ∈ st.versions.map Prod.fst := by
  simp [hasVersion]

def move (st : Store) (stage v : String) (hv : st.hasVersion v) : Store where
  versions := st.versions
  stages := Stages.moveLabel st.stages stage v
  versions_nodup := st.versions_nodup
  stages_nodup := Stages.nodup_moveLabel st.stages_nodup stage v
  stages_exist p hp := by
    rcases Stages.mem_moveLabel hp with h | h
    · exact h ▸ (hasVersion_iff st v).mp hv
    · obtain ⟨q, hq, he⟩ := List.mem_map.mp h
      exact he ▸ st.stages_exist q hq

def remove (st : Store) (stage : String) : Store where
  versions := st.versions
  stages := Stages.detach stage st.stages
  versions_nodup := st.versions_nodup
  stages_nodup := st.stages_nodup.sublist (Stages.keys_detach_sublist stage st.stages)
  stages_exist p hp := st.stages_exist p (List.mem_of_mem_filter hp)

def addVersion (st : Store) (v s : String) (hv : ¬ st.hasVersion v) : Store where
  versions := (v, some s) :: st.versions
  stages := st.stages
  versions_nodup := List.nodup_cons.mpr ⟨fun h => hv ((hasVersion_iff st v).mpr h), st.versions_nodup⟩
  stages_nodup := st.stages_nodup
  stages_exist p hp := List.mem_cons_of_mem _ (st.stages_exist p hp)

theorem hasVersion_addVersion (st : Store) (v s : String) (hv : ¬ st.hasVersion v) :
    (st.addVersion v s hv).hasVersion v := by
  simp [hasVersion, addVersion]

@[simp] theorem holder_move_self (st : Store) (stage v : String) (hv : st.hasVersion v) :
    (st.move stage v hv).holder stage = some v :=
  Stages.lookup_moveLabel_self st.stages stage v

theorem holder_move_of_ne (st : Store) {stage s : String} (v : String) (hv : st.hasVersion v)
    (hs : s ≠ stage) (hc : stage ≠ AWSCURRENT) : (st.move stage v hv).holder s = st.holder s :=
  Stages.lookup_moveLabel_of_ne st.stages v hs hc

@[simp] theorem holder_remove (st : Store) (stage s : String) :
    (st.remove stage).holder s = if s = stage then none else st.holder s :=
  Stages.lookup_detach stage s st.stages

@[simp] theorem holder_addVersion (st : Store) (v s : String) (hv : ¬ st.hasVersion v) (l : String) :
    (st.addVersion v s hv).holder l = st.holder l := rfl

theorem secretString_addVersion_of_ne (st : Store) {v u : String} (s : String) (hv : ¬ st.hasVersion v)
    (h : u ≠ v) : (st.addVersion v s hv).secretString u = st.secretString u := by
  simp [secretString, addVersion, List.lookup_cons, beq_false_of_ne h]

@[simp] theorem secretString_move (st : Store) (stage v : String) (hv : st.hasVersion v) :
    (st.move stage v hv).secretString = st.secretString := rfl

@[simp] theorem secretString_remove (st : Store) (stage : String) :
    (st.remove stage).secretString = st.secretString := rfl

theorem hasVersion_of_secretString {st : Store} {v : String} {x : Option String} (h : st.secretString v = some x) :
    st.hasVersion v := by
  rw [hasVersion_iff]
  unfold secretString at h
  generalize st.versions = l at h ⊢
  induction l with
  | nil => cases h
  | cons p l ih =>
    obtain ⟨k, y⟩ := p
    by_cases hk : v = k
    · exact hk ▸ List.mem_cons_self _ _
    · simp only [List.lookup_cons, beq_false_of_ne hk] at h
      exact List.mem_cons_of_mem _ (ih h)

theorem hasVersion_of_holder {st : Store} {l v : String} (h : st.holder l = some v) : st.hasVersion v :=
  (st.hasVersion_iff v).mpr (st.stages_exist _ (Stages.mem_of_lookup h))

end Store

/-! ### The service -/

inductive Call where
  | getSecretValue (versionStage : String) (versionId : Option String)
  | putSecretValue (clientRequestToken secretString : String) (versionStages : List String)
  | updateSecretVersionStage (versionStage : String) (removeFromVersionId moveToVersionId : Option String)
  | describeSecret
  deriving DecidableEq, Repr

/-- The service as the rotator sees it: the store, the `ReplicationStatus` lists the
coming `DescribeSecret` calls answer (`none` a nil output, an entry `none` a nil
status, else its `Status`), the faults of the coming calls (`some e` fails with `e`,
changing nothing), and the log. -/
structure SecretsManager where
  store : Store
  replication : List (Option (List (Option String)))
  faults : List (Option Error)
  log : List Call

structure GetSecretValueOutput where
  versionId : String
  secretString : Option String
  versionStages : List String
  deriving DecidableEq, Repr

def errStageNotFound (stage : String) : Error :=
  .aws ErrCodeResourceNotFoundException
    ("Secrets Manager can't find the specified secret value for staging label: " ++ stage)

def errVersionNotFound (v : String) : Error :=
  .aws ErrCodeResourceNotFoundException
    ("Secrets Manager can't find the specified secret version: " ++ v)

def errResourceExists : Error :=
  .aws "ResourceExistsException" "You can't modify an existing version, you can only create a new version."

def errInvalidParameter (stage : String) : Error :=
  .aws "InvalidParameterException" ("The staging label " ++ stage ++ " can't be moved or removed as asked.")

namespace SecretsManager

def next (sm : SecretsManager) : Option Error × SecretsManager :=
  match sm.faults with
  | [] => (none, sm)
  | f :: fs => (f, { sm with faults := fs })

/-- `GetSecretValue` by staging label. -/
def getSecretValue (sm : SecretsManager) (stage : String) :
    Except Error GetSecretValueOutput × SecretsManager :=
  let (f, sm) := sm.next
  let r : Except Error GetSecretValueOutput :=
    match f with
    | some e => .error e
    | none =>
      match sm.store.holder stage with
      | none => .error (errStageNotFound stage)
      | some v => .ok ⟨v, (sm.store.secretString v).getD none, sm.store.versionStages v⟩
  (r, { sm with log := sm.log ++ [.getSecretValue stage (r.toOption.map (·.versionId))] })

def putNew (st : Store) (token s : String) (stages : List String) (hv : ¬ st.hasVersion token) : Store :=
  stages.foldl (fun st' stage => if h : st'.hasVersion token then st'.move stage token h else st')
    (st.addVersion token s hv)

theorem putNew_pending (st : Store) (T s : String) (hv : ¬ st.hasVersion T) :
    putNew st T s [AWSPENDING] hv = (st.addVersion T s hv).move AWSPENDING T (st.hasVersion_addVersion T s hv) := by
  simp [putNew, st.hasVersion_addVersion T s hv]

theorem holder_putNew_pending (st : Store) (T s : String) (hv : ¬ st.hasVersion T) (l : String) :
    (putNew st T s [AWSPENDING] hv).holder l = if l = AWSPENDING then some T else st.holder l := by
  rw [putNew_pending]
  split_ifs with hl
  · rw [hl, Store.holder_move_self]
  · rw [Store.holder_move_of_ne _ _ _ hl AWSCURRENT_ne_AWSPENDING.symm, Store.holder_addVersion]

theorem secretString_putNew_pending_of_ne (st : Store) {T v : String} (s : String) (hv : ¬ st.hasVersion T)
    (h : v ≠ T) : (putNew st T s [AWSPENDING] hv).secretString v = st.secretString v := by
  rw [putNew_pending, Store.secretString_move, Store.secretString_addVersion_of_ne _ _ _ h]

/-- `PutSecretValue` with `ClientRequestToken` (the new version id), `SecretString` and
`VersionStages`. -/
def putSecretValue (sm : SecretsManager) (token s : String) (stages : List String) :
    Except Error Unit × SecretsManager :=
  let (f, sm) := sm.next
  let sm' := { sm with log := sm.log ++ [.putSecretValue token s stages] }
  match f with
  | some e => (.error e, sm')
  | none =>
    if hv : sm.store.hasVersion token then
      if sm.store.secretString token = some (some s) then (.ok (), sm') else (.error errResourceExists, sm')
    else (.ok (), { sm' with store := putNew sm.store token s stages hv })

/-- `UpdateSecretVersionStage`: move `stage` to `moveTo`, or take it off `removeFrom`.
A label on another version than `moveTo` moves only if `removeFrom` names that
version; AWSCURRENT is never only removed. -/
def updateSecretVersionStage (sm : SecretsManager) (stage : String) (removeFrom moveTo : Option String) :
    Except Error Unit × SecretsManager :=
  let (f, sm) := sm.next
  let sm' := { sm with log := sm.log ++ [.updateSecretVersionStage stage removeFrom moveTo] }
  match f with
  | some e => (.error e, sm')
  | none =>
    match moveTo with
    | some v =>
      if hv : sm.store.hasVersion v then
        match sm.store.holder stage with
        | some h =>
          if h ≠ v ∧ removeFrom ≠ some h then (.error (errInvalidParameter stage), sm')
          else (.ok (), { sm' with store := sm.store.move stage v hv })
        | none => (.ok (), { sm' with store := sm.store.move stage v hv })
      else (.error (errVersionNotFound v), sm')
    | none =>
      if stage ≠ AWSCURRENT ∧ removeFrom.isSome ∧ sm.store.holder stage = removeFrom then
        (.ok (), { sm' with store := sm.store.remove stage })
      else (.error (errInvalidParameter stage), sm')

def describeSecret (sm : SecretsManager) : Except Error (Option (List (Option String))) × SecretsManager :=
  let (f, sm) := sm.next
  let sm' := { sm with log := sm.log ++ [.describeSecret] }
  match f with
  | some e => (.error e, sm')
  | none =>
    match sm.replication with
    | [] => (.ok (some []), sm')
    | r :: rs => (.ok r, { sm' with replication := rs })

/-! Each call keeps the store as its fault found it and logs itself once. -/

theorem next_log (sm : SecretsManager) : sm.next.2.log = sm.log := by
  unfold next; split <;> rfl

theorem next_store (sm : SecretsManager) : sm.next.2.store = sm.store := by
  unfold next; split <;> rfl

theorem getSecretValue_log (sm : SecretsManager) (stage : String) :
    (sm.getSecretValue stage).2.log =
      sm.log ++ [.getSecretValue stage ((sm.getSecretValue stage).1.toOption.map (·.versionId))] := by
  simp only [getSecretValue, ← sm.next_log]

theorem getSecretValue_store (sm : SecretsManager) (stage : String) :
    (sm.getSecretValue stage).2.store = sm.store := by
  simp only [getSecretValue, ← sm.next_store]

theorem getSecretValue_ok {sm : SecretsManager} {stage : String} {s : GetSecretValueOutput}
    (h : (sm.getSecretValue stage).1 = .ok s) : sm.store.holder stage = some s.versionId := by
  simp only [getSecretValue, ← sm.next_store] at h ⊢
  split at h
  · cases h
  · split at h <;> cases h; assumption

theorem getSecretValue_secretString {sm : SecretsManager} {stage : String} {s : GetSecretValueOutput}
    (h : (sm.getSecretValue stage).1 = .ok s) : s.secretString = (sm.store.secretString s.versionId).getD none := by
  simp only [getSecretValue, ← sm.next_store] at h ⊢
  split at h
  · cases h
  · split at h <;> cases h; rfl

theorem putSecretValue_log (sm : SecretsManager) (T s : String) (stages : List String) :
    (sm.putSecretValue T s stages).2.log = sm.log ++ [.putSecretValue T s stages] := by
  simp only [putSecretValue, ← sm.next_log]
  repeat' split
  all_goals rfl

theorem updateSecretVersionStage_log (sm : SecretsManager) (stage : String) (a b : Option String) :
    (sm.updateSecretVersionStage stage a b).2.log = sm.log ++ [.updateSecretVersionStage stage a b] := by
  simp only [updateSecretVersionStage, ← sm.next_log]
  repeat' split
  all_goals rfl

theorem describeSecret_log (sm : SecretsManager) : sm.describeSecret.2.log = sm.log ++ [.describeSecret] := by
  simp only [describeSecret, ← sm.next_log]
  repeat' split
  all_goals rfl

theorem describeSecret_store (sm : SecretsManager) : sm.describeSecret.2.store = sm.store := by
  simp only [describeSecret, ← sm.next_store]
  repeat' split
  all_goals rfl

end SecretsManager

end PasswordRotation

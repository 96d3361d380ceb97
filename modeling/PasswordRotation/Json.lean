import Mathlib.Data.String.Basic
import PasswordRotation.Db

/-! `encoding/json` on secret values: `json.Marshal` of a `map[string]string` and
`json.Unmarshal` into one. -/
namespace PasswordRotation.Json

def keyLt (a b : String) : Prop := a.toList < b.toList

instance : DecidableRel keyLt := fun a b => inferInstanceAs (Decidable (a.toList < b.toList))

theorem keyLt_trans {a b c : String} (h₁ : keyLt a b) (h₂ : keyLt b c) : keyLt a c :=
  lt_trans (α := List Char) h₁ h₂

theorem keyLt_irrefl (a : String) : ¬ keyLt a a := lt_irrefl (α := List Char) _

theorem keyLt_or_eq_or_keyLt (a b : String) : keyLt a b ∨ a = b ∨ keyLt b a := by
  rcases lt_trichotomy a.toList b.toList with h | h | h
  · exact .inl h
  · exact .inr (.inl (String.toList_inj.mp h))
  · exact .inr (.inr h)

/-- A Go `map[string]string`, its entries kept in increasing key order. -/
@[ext] structure StrMap where
  entries : List (String × String)
  sorted : (entries.map Prod.fst).Pairwise keyLt

instance : DecidableEq StrMap := fun a b =>
  decidable_of_iff (a.entries = b.entries) StrMap.ext_iff.symm

def insertEntry (k v : String) : List (String × String) → List (String × String)
  | [] => [(k, v)]
  | (k', v') :: rest =>
    if keyLt k k' then (k, v) :: (k', v') :: rest
    else if k = k' then (k, v) :: rest
    else (k', v') :: insertEntry k v rest

theorem mem_keys_insertEntry {k v x : String} {l : List (String × String)}
    (h : x ∈ (insertEntry k v l).map Prod.fst) : x = k ∨ x ∈ l.map Prod.fst := by
  induction l with
  | nil => simpa [insertEntry] using h
  | cons p rest ih =>
    simp only [insertEntry] at h
    split_ifs at h
    · simpa only [List.map_cons, List.mem_cons] using h
    · simp only [List.map_cons, List.mem_cons] at h ⊢
      exact h.imp_right .inr
    · simp only [List.map_cons, List.mem_cons] at h ⊢
      exact h.elim (.inr ∘ .inl) fun h => (ih h).imp_right .inr

theorem sorted_insertEntry (k v : String) {l : List (String × String)}
    (hl : (l.map Prod.fst).Pairwise keyLt) : ((insertEntry k v l).map Prod.fst).Pairwise keyLt := by
  induction l with
  | nil => simp [insertEntry]
  | cons p rest ih =>
    simp only [List.map_cons, List.pairwise_cons] at hl
    simp only [insertEntry]
    split_ifs with hlt heq
    · simp only [List.map_cons, List.pairwise_cons]
      exact ⟨fun x hx => (List.mem_cons.mp hx).elim (· ▸ hlt) (keyLt_trans hlt <| hl.1 x ·), hl.1, hl.2⟩
    · subst heq
      simpa using hl
    · have hgt : keyLt p.1 k := by
        rcases keyLt_or_eq_or_keyLt k p.1 with h | h | h
        · exact absurd h hlt
        · exact absurd h heq
        · exact h
      simp only [List.map_cons, List.pairwise_cons]
      exact ⟨fun x hx => (mem_keys_insertEntry hx).elim (· ▸ hgt) (hl.1 x), ih hl.2⟩

namespace StrMap

def empty : StrMap := ⟨[], List.Pairwise.nil⟩

def insert (m : StrMap) (k v : String) : StrMap :=
  ⟨insertEntry k v m.entries, sorted_insertEntry k v m.sorted⟩

def find? (m : StrMap) (k : String) : Option String := m.entries.lookup k

def get (m : StrMap) (k : String) : String := (m.find? k).getD ""

def insertAll (m : StrMap) (l : List (String × String)) : StrMap :=
  l.foldl (fun m p => m.insert p.1 p.2) m

def ofList (l : List (String × String)) : StrMap := empty.insertAll l

theorem lookup_insertEntry (k v k' : String) (l : List (String × String)) :
    (insertEntry k v l).lookup k' = if k' = k then some v else l.lookup k' := by
  induction l with
  | nil => by_cases h : k' = k <;> simp [insertEntry, List.lookup_cons, h, beq_false_of_ne]
  | cons p rest ih =>
    obtain ⟨k₀, v₀⟩ := p
    simp only [insertEntry]
    by_cases h : k' = k
    · subst h
      split_ifs with h₁ h₂ <;> simp_all [List.lookup_cons, beq_false_of_ne]
    · split_ifs with h₁ h₂ <;> simp_all [List.lookup_cons, beq_false_of_ne]

@[simp] theorem find?_insert (m : StrMap) (k v k' : String) :
    (m.insert k v).find? k' = if k' = k then some v else m.find? k' :=
  lookup_insertEntry k v k' m.entries

@[simp] theorem find?_empty (k : String) : empty.find? k = none := rfl

theorem get_insert (m : StrMap) (k v k' : String) :
    (m.insert k v).get k' = if k' = k then v else m.get k' := by
  by_cases h : k' = k <;> simp [get, h]

theorem insertEntry_of_lt {k v : String} {l : List (String × String)}
    (h : ∀ x ∈ l.map Prod.fst, keyLt x k) : insertEntry k v l = l ++ [(k, v)] := by
  induction l with
  | nil => rfl
  | cons p rest ih =>
    simp only [List.map_cons, List.mem_cons, forall_eq_or_imp] at h
    have hne : k ≠ p.1 := fun he => keyLt_irrefl k (he ▸ h.1)
    have hnlt : ¬ keyLt k p.1 := fun hl => keyLt_irrefl k (keyLt_trans hl h.1)
    simp [insertEntry, hne, hnlt, ih h.2]

theorem entries_insertAll (m : StrMap) (l : List (String × String))
    (h : ((m.entries ++ l).map Prod.fst).Pairwise keyLt) : (m.insertAll l).entries = m.entries ++ l := by
  induction l generalizing m with
  | nil => simp [insertAll]
  | cons p ps ih =>
    have hlt : ∀ x ∈ m.entries.map Prod.fst, keyLt x p.1 := by
      simp only [List.map_append, List.map_cons, List.pairwise_append] at h
      exact fun x hx => h.2.2 x hx p.1 (List.mem_cons_self _ _)
    have hins : (m.insert p.1 p.2).entries = m.entries ++ [p] := insertEntry_of_lt hlt
    rw [insertAll, List.foldl_cons, ← insertAll, ih _ (by simpa [hins] using h), hins]
    simp

end StrMap

/-! ### `json.Marshal` -/

def hexDigit (n : Nat) : Char := if n < 10 then Char.ofNat (48 + n) else Char.ofNat (87 + n)

def escapeChar (c : Char) : List Char :=
  if c = '\\' ∨ c = '\"' then ['\\', c]
  else if c = '\x08' then ['\\', 'b']
  else if c = '\x0c' then ['\\', 'f']
  else if c = '\n' then ['\\', 'n']
  else if c = '\r' then ['\\', 'r']
  else if c = '\t' then ['\\', 't']
  else if c.toNat < 0x20 ∨ c = '<' ∨ c = '>' ∨ c = '&' then
    ['\\', 'u', '0', '0', hexDigit (c.toNat / 16), hexDigit (c.toNat % 16)]
  else if c = '\u2028' ∨ c = '\u2029' then ['\\', 'u', '2', '0', '2', hexDigit (c.toNat % 16)]
  else [c]

def quote (s : String) : List Char := '\"' :: s.toList.flatMap escapeChar ++ ['\"']

def member (p : String × String) : List Char := quote p.1 ++ ':' :: quote p.2

def members : List (String × String) → List Char
  | [] => []
  | [p] => member p
  | p :: q :: ps => member p ++ ',' :: members (q :: ps)

/-- `json.Marshal(m)` of a non-nil `map[string]string`; it cannot fail. -/
def marshal (m : StrMap) : String := ⟨'{' :: members m.entries ++ ['}']⟩

/-! ### `json.Unmarshal` into a `map[string]string` -/

inductive Token where
  | lbrace
  | rbrace
  | colon
  | comma
  | null
  | str (s : String)
  deriving DecidableEq, Repr

def isSpace (c : Char) : Bool := c = ' ' || c = '\t' || c = '\n' || c = '\r'

def hexVal (c : Char) : Option Nat :=
  if '0' ≤ c ∧ c ≤ '9' then some (c.toNat - 48)
  else if 'a' ≤ c ∧ c ≤ 'f' then some (c.toNat - 87)
  else if 'A' ≤ c ∧ c ≤ 'F' then some (c.toNat - 55)
  else none

def hex4 (a b c d : Char) : Option Nat := do
  let a ← hexVal a
  let b ← hexVal b
  let c ← hexVal c
  let d ← hexVal d
  pure (((a * 16 + b) * 16 + c) * 16 + d)

def unescape (c : Char) : Option Char :=
  if c = '\"' ∨ c = '\\' ∨ c = '/' then some c
  else if c = 'b' then some '\x08'
  else if c = 'f' then some '\x0c'
  else if c = 'n' then some '\n'
  else if c = 'r' then some '\r'
  else if c = 't' then some '\t'
  else none

def isSurrogate (n : Nat) : Bool := 0xD800 ≤ n && n < 0xE000

def decodePair (hi lo : Nat) : Option Char :=
  if 0xD800 ≤ hi ∧ hi < 0xDC00 ∧ 0xDC00 ≤ lo ∧ lo < 0xE000 then
    some (Char.ofNat (0x10000 + (hi - 0xD800) * 0x400 + (lo - 0xDC00)))
  else none

/-- Where the scanner is: between tokens, or inside a string literal that has read
`acc`, with `hi` a high surrogate half still waiting for its low half. -/
inductive Scan where
  | between
  | string (acc : List Char) (hi : Option Nat)

def flush (acc : List Char) : Option Nat → List Char
  | none => acc
  | some _ => acc ++ ['\uFFFD']

def unit (acc : List Char) (hi : Option Nat) (n : Nat) : Scan :=
  match hi.bind (decodePair · n) with
  | some r => .string (acc ++ [r]) none
  | none =>
    if 0xD800 ≤ n ∧ n < 0xDC00 then .string (flush acc hi) (some n)
    else if isSurrogate n then .string (flush acc hi ++ ['\uFFFD']) none
    else .string (flush acc hi ++ [Char.ofNat n]) none

/-- The scanner, one character or escape at a time. -/
def lexAux : Scan → List Char → Option (List Token)
  | .between, [] => some []
  | .between, 'n' :: 'u' :: 'l' :: 'l' :: cs => (lexAux .between cs).map (.null :: ·)
  | .between, c :: cs =>
    if isSpace c then lexAux .between cs
    else if c = '{' then (lexAux .between cs).map (.lbrace :: ·)
    else if c = '}' then (lexAux .between cs).map (.rbrace :: ·)
    else if c = ':' then (lexAux .between cs).map (.colon :: ·)
    else if c = ',' then (lexAux .between cs).map (.comma :: ·)
    else if c = '\"' then lexAux (.string [] none) cs
    else none
  | .string _ _, [] => none
  | .string acc hi, '\\' :: 'u' :: a :: b :: c :: d :: cs =>
    (hex4 a b c d).bind fun n => lexAux (unit acc hi n) cs
  | .string acc hi, '\\' :: c :: cs =>
    (unescape c).bind fun r => lexAux (.string (flush acc hi ++ [r]) none) cs
  | .string acc hi, c :: cs =>
    if c = '\"' then (lexAux .between cs).map (.str ⟨flush acc hi⟩ :: ·)
    else if c.toNat < 0x20 then none
    else lexAux (.string (flush acc hi ++ [c]) none) cs

theorem hexVal_hexDigit : ∀ n < 16, hexVal (hexDigit n) = some n := by decide

theorem lexAux_plain {acc : List Char} {c : Char} (l : List Char) (h₁ : c ≠ '\\') (h₂ : c ≠ '\"')
    (h₃ : ¬ c.toNat < 0x20) :
    lexAux (.string acc none) (c :: l) = lexAux (.string (acc ++ [c]) none) l := by
  rw [lexAux.eq_7 _ _ _ _ (fun _ _ _ _ _ h => absurd h h₁) (fun _ _ h => absurd h h₁), if_neg h₂, if_neg h₃]
  rfl

theorem lexAux_escape {acc : List Char} {c r : Char} (l : List Char) (hu : c ≠ 'u')
    (hr : unescape c = some r) :
    lexAux (.string acc none) ('\\' :: c :: l) = lexAux (.string (acc ++ [r]) none) l := by
  rw [lexAux.eq_6 _ _ _ _ (fun _ _ _ _ _ h => absurd h hu), hr, Option.some_bind]
  rfl

theorem lexAux_unit {acc : List Char} {a b d e c : Char} (l : List Char)
    (hhex : hex4 a b d e = some c.toNat) (hs : c.toNat < 0xD800) :
    lexAux (.string acc none) ('\\' :: 'u' :: a :: b :: d :: e :: l) =
      lexAux (.string (acc ++ [c]) none) l := by
  rw [lexAux.eq_5, hhex, Option.some_bind]
  simp [unit, isSurrogate, flush, show ¬ 0xD800 ≤ c.toNat by omega]

theorem lexAux_escapeChar (c : Char) (acc l : List Char) :
    lexAux (.string acc none) (escapeChar c ++ l) = lexAux (.string (acc ++ [c]) none) l := by
  by_cases h₁ : c = '\\' ∨ c = '\"'
  · rcases h₁ with rfl | rfl <;> exact lexAux_escape l (by decide) rfl
  by_cases h₂ : c = '\x08' ∨ c = '\x0c' ∨ c = '\n' ∨ c = '\r' ∨ c = '\t'
  · rcases h₂ with rfl | rfl | rfl | rfl | rfl <;> exact lexAux_escape l (by decide) rfl
  by_cases h₃ : c = '\u2028' ∨ c = '\u2029'
  · rcases h₃ with rfl | rfl <;> exact lexAux_unit l (by decide) (by decide)
  push_neg at h₂
  rw [escapeChar, if_neg h₁, if_neg h₂.1, if_neg h₂.2.1, if_neg h₂.2.2.1, if_neg h₂.2.2.2.1,
    if_neg h₂.2.2.2.2]
  split_ifs with h₇
  · have hn : c.toNat < 0x40 := by rcases h₇ with h | rfl | rfl | rfl <;> first | omega | decide
    refine lexAux_unit l ?_ (by omega)
    simp only [hex4, hexVal_hexDigit _ (by omega : c.toNat / 16 < 16),
      hexVal_hexDigit _ (by omega : c.toNat % 16 < 16)]
    show some (((0 * 16 + 0) * 16 + c.toNat / 16) * 16 + c.toNat % 16) = some c.toNat
    congr 1; omega
  · push_neg at h₁ h₇
    exact lexAux_plain l h₁.1 h₁.2 (by omega)

theorem lexAux_body (s : List Char) (acc rest : List Char) :
    lexAux (.string acc none) (s.flatMap escapeChar ++ '\"' :: rest) =
      (lexAux .between rest).map (.str ⟨acc ++ s⟩ :: ·) := by
  induction s generalizing acc with
  | nil => simp [lexAux, flush]
  | cons c s ih =>
    rw [List.flatMap_cons, List.append_assoc, lexAux_escapeChar, ih]
    simp

theorem lexAux_quote (s : String) (rest : List Char) :
    lexAux .between (quote s ++ rest) = (lexAux .between rest).map (.str s :: ·) := by
  simp only [quote, List.cons_append, List.append_assoc, List.singleton_append, List.nil_append]
  rw [show lexAux .between ('\"' :: (s.toList.flatMap escapeChar ++ '\"' :: rest)) =
    lexAux (.string [] none) (s.toList.flatMap escapeChar ++ '\"' :: rest) from rfl, lexAux_body]
  rfl

def memberTokens : List (String × String) → List Token
  | [] => []
  | [p] => [.str p.1, .colon, .str p.2]
  | p :: q :: ps => [.str p.1, .colon, .str p.2, .comma] ++ memberTokens (q :: ps)

theorem lexAux_member (p : String × String) (rest : List Char) :
    lexAux .between (member p ++ rest) = (lexAux .between rest).map ([.str p.1, .colon, .str p.2] ++ ·) := by
  simp only [member, List.append_assoc, List.cons_append, lexAux_quote]
  rw [show lexAux .between (':' :: (quote p.2 ++ rest)) =
    (lexAux .between (quote p.2 ++ rest)).map (.colon :: ·) from rfl, lexAux_quote]
  simp [Option.map_map, Function.comp_def]

theorem lexAux_members (l : List (String × String)) (rest : List Char) :
    lexAux .between (members l ++ rest) = (lexAux .between rest).map (memberTokens l ++ ·) := by
  induction l using members.induct with
  | case1 => simp [members, memberTokens]
  | case2 p => simp [members, memberTokens, lexAux_member]
  | case3 p q ps ih =>
    simp only [members, memberTokens, List.append_assoc, List.cons_append, lexAux_member]
    rw [show lexAux .between (',' :: (members (q :: ps) ++ rest)) =
      (lexAux .between (members (q :: ps) ++ rest)).map (.comma :: ·) from rfl, ih]
    simp [Option.map_map, Function.comp_def]

theorem lexAux_marshal (m : StrMap) :
    lexAux .between (marshal m).toList = some (.lbrace :: memberTokens m.entries ++ [.rbrace]) := by
  show lexAux .between ('{' :: (members m.entries ++ ['}'])) = _
  rw [show lexAux .between ('{' :: (members m.entries ++ ['}'])) =
    (lexAux .between (members m.entries ++ ['}'])).map (.lbrace :: ·) from rfl, lexAux_members]
  rfl

def memberValue : Token → Option String
  | .str v => some v
  | .null => some ""
  | _ => none

def parseMembers : List Token → StrMap → Option StrMap
  | [.str k, .colon, v, .rbrace], m => (memberValue v).map (m.insert k)
  | .str k :: .colon :: v :: .comma :: rest, m =>
    (memberValue v).bind fun s => parseMembers rest (m.insert k s)
  | _, _ => none

def parseValue : List Token → Option (Option StrMap)
  | [.null] => some none
  | [.lbrace, .rbrace] => some (some .empty)
  | .lbrace :: rest => (parseMembers rest .empty).map some
  | _ => none

def errUnmarshal : Error := .msg "json: cannot unmarshal secret string into Go value of type map[string]string"

/-- `json.Unmarshal(s, &v)` with `v` a nil `map[string]string`: `none` is a nil map. -/
def unmarshal (s : String) : Except Error (Option StrMap) :=
  match (lexAux .between s.toList).bind parseValue with
  | some v => .ok v
  | none => .error errUnmarshal

theorem unmarshal_error {s : String} {e : Error} (h : unmarshal s = .error e) : e = errUnmarshal := by
  unfold unmarshal at h
  split at h <;> cases h; rfl

theorem parseMembers_tokens (p : String × String) (ps : List (String × String)) (m : StrMap) :
    parseMembers (memberTokens (p :: ps) ++ [.rbrace]) m = some (m.insertAll (p :: ps)) := by
  induction ps generalizing p m with
  | nil => rfl
  | cons q ps ih => exact ih q (m.insert p.1 p.2)

theorem unmarshal_marshal (m : StrMap) : unmarshal (marshal m) = .ok (some m) := by
  obtain ⟨_ | ⟨p, ps⟩, hs⟩ := m
  · rfl
  · have he : StrMap.empty.insertAll (p :: ps) = ⟨p :: ps, hs⟩ :=
      StrMap.ext (StrMap.entries_insertAll .empty (p :: ps) hs)
    obtain ⟨r, hr⟩ : ∃ r, memberTokens (p :: ps) = .str p.1 :: r := by cases ps <;> exact ⟨_, rfl⟩
    have hp : parseValue (.lbrace :: (memberTokens (p :: ps) ++ [.rbrace])) = some (some ⟨p :: ps, hs⟩) := by
      rw [hr]
      show Option.map some (parseMembers (.str p.1 :: r ++ [.rbrace]) .empty) = _
      rw [← hr, parseMembers_tokens, he]
      rfl
    simp only [unmarshal, lexAux_marshal, Option.some_bind, List.cons_append, hp]

end PasswordRotation.Json

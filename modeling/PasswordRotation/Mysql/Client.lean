import PasswordRotation.Db

/-! `mysql.RDSClient`: the `ALTER USER` statement `SetPassword` executes, MySQL's reading of
its string literal, and one server as a map from user to password. -/
namespace PasswordRotation.Mysql

def replaceQuotes : List Char → List Char
  | [] => []
  | c :: cs => if c = '\'' then '\\' :: '\'' :: replaceQuotes cs else c :: replaceQuotes cs

def escapedPassword (p : String) : String := ⟨replaceQuotes p.toList⟩

def alterPrefix : String := "ALTER USER CURRENT_USER IDENTIFIED BY '"

/-- `alter`, the statement `RDSClient.SetPassword` executes to set the password `p`. -/
def alter (p : String) : String := alterPrefix ++ escapedPassword p ++ "'"

def escapeSequence (c : Char) : List Char :=
  if c = '0' then [Char.ofNat 0]
  else if c = 'b' then [Char.ofNat 8]
  else if c = 'n' then ['\n']
  else if c = 'r' then ['\r']
  else if c = 't' then ['\t']
  else if c = 'Z' then [Char.ofNat 26]
  else if c = '%' ∨ c = '_' then ['\\', c]
  else [c]

/-- MySQL's lexer inside a single-quoted literal, from just after its opening quote:
the string the literal denotes and the text after its closing quote, `none` when the
literal never ends. Two quotes in a row stand for one quote. -/
def lexQuoted : List Char → Option (List Char × List Char)
  | [] => none
  | '\\' :: c :: rest => (lexQuoted rest).map fun vr => (escapeSequence c ++ vr.1, vr.2)
  | '\'' :: '\'' :: rest => (lexQuoted rest).map fun vr => ('\'' :: vr.1, vr.2)
  | '\'' :: rest => some ([], rest)
  | c :: rest => (lexQuoted rest).map fun vr => (c :: vr.1, vr.2)

/-- The literal of a statement that starts with `alterPrefix`: what it denotes, and
the text after it. -/
def literal (stmt : String) : Option (List Char × List Char) :=
  if alterPrefix.toList.isPrefixOf stmt.toList then
    lexQuoted (stmt.toList.drop alterPrefix.length)
  else none

theorem lexQuoted_backslash (c : Char) (rest : List Char) :
    lexQuoted ('\\' :: c :: rest) =
      (lexQuoted rest).map fun vr => (escapeSequence c ++ vr.1, vr.2) := rfl

theorem lexQuoted_plain {c : Char} (h1 : c ≠ '\\') (h2 : c ≠ '\'') (rest : List Char) :
    lexQuoted (c :: rest) = (lexQuoted rest).map fun vr => (c :: vr.1, vr.2) := by
  rw [lexQuoted] <;> simp_all

theorem lexQuoted_replaceQuotes {p : List Char} (hp : '\\' ∉ p) :
    lexQuoted (replaceQuotes p ++ ['\'']) = some (p, []) := by
  induction p with
  | nil => rfl
  | cons c cs ih =>
    have hc : c ≠ '\\' := fun h => hp (h ▸ List.mem_cons_self c cs)
    have ih := ih fun h => hp (List.mem_cons_of_mem c h)
    by_cases hq : c = '\''
    · subst hq
      simp [replaceQuotes, lexQuoted_backslash, ih, escapeSequence]
    · simp [replaceQuotes, hq, lexQuoted_plain hc hq, ih]

theorem literal_alter {p : String} (hp : '\\' ∉ p.toList) :
    literal (alter p) = some (p.toList, []) := by
  have hpre : alterPrefix.toList.isPrefixOf (alter p).toList = true := by
    simp [alter, List.isPrefixOf_iff_prefix]
  simp only [literal, hpre, if_true]
  simpa [alter, escapedPassword] using lexQuoted_replaceQuotes hp

/-- Escaping only the quotes leaves a backslash in the password to MySQL: for the
password made of one backslash, the backslash escapes the closing quote and the
literal never ends; for backslash, quote, `x` the literal ends after the backslash and
`x'` is read as SQL. -/
theorem literal_alter_backslash :
    literal (alter "\\") = none ∧ literal (alter "\\'x") = some (['\\'], ['x', '\'']) := by
  decide

/-- One MySQL server: each user's password, `none` for a user it does not have. -/
def Server := String → Option String

def Server.setPassword (srv : Server) (username p : String) : Server :=
  fun u => if u = username then some p else srv u

def Server.connects (srv : Server) (username password : String) : Bool :=
  srv username = some password

/-- The server executing `stmt` for the connected `username`: an `ALTER USER
CURRENT_USER IDENTIFIED BY` statement whose one literal ends the statement sets the
password to what the literal denotes; MySQL refuses anything else. -/
def Server.exec (srv : Server) (username stmt : String) : Option Error × Server :=
  match literal stmt with
  | some (p, []) => (none, srv.setPassword username ⟨p⟩)
  | _ => (some (.msg "Error 1064: You have an error in your SQL syntax"), srv)

def errAccessDenied (username : String) : Error :=
  .msg ("Error 1045: Access denied for user " ++ username)

structure RDSClient where
  tls : Bool
  dryrun : Bool
  deriving DecidableEq, Repr

/-- `RDSClient.SetPassword`: connect with the current credentials, then (unless a dry
run) execute `alter` for the new password as the connected user. -/
def RDSClient.setPassword (c : RDSClient) (creds : NewPassword) (srv : Server) :
    Option Error × Server :=
  if srv.connects creds.current.username creds.current.password then
    if c.dryrun then (none, srv) else srv.exec creds.current.username (alter creds.new.password)
  else (some (errAccessDenied creds.current.username), srv)

/-- `RDSClient.VerifyPassword`: connect with the new credentials. -/
def RDSClient.verifyPassword (_ : RDSClient) (creds : NewPassword) (srv : Server) :
    Option Error :=
  if srv.connects creds.new.username creds.new.password then none
  else some (errAccessDenied creds.new.username)

theorem setPassword_installs (c : RDSClient) (creds : NewPassword) (srv : Server)
    (hslash : '\\' ∉ creds.new.password.toList) (hdry : c.dryrun = false)
    (hset : (c.setPassword creds srv).1 = none) :
    (c.setPassword creds srv).2 creds.current.username = some creds.new.password := by
  by_cases hc : srv.connects creds.current.username creds.current.password
  · simp [RDSClient.setPassword, hc, hdry, Server.exec, literal_alter hslash,
      Server.setPassword]
  · simp [RDSClient.setPassword, hc] at hset

/-- What `SetPassword` installs is what `VerifyPassword` checks, for a transition that
keeps the username and a new password without a backslash. -/
theorem verify_after_set (c : RDSClient) (creds : NewPassword) (srv : Server)
    (huser : creds.new.username = creds.current.username)
    (hslash : '\\' ∉ creds.new.password.toList) (hdry : c.dryrun = false)
    (hset : (c.setPassword creds srv).1 = none) :
    c.verifyPassword creds (c.setPassword creds srv).2 = none := by
  have h := setPassword_installs c creds srv hslash hdry hset
  simp [RDSClient.verifyPassword, Server.connects, huser, h]

theorem verify_after_set_example :
    let creds : NewPassword := ⟨⟨"app", "db1", "old"⟩, ⟨"app", "db1", "n'ew"⟩⟩
    let srv : Server := fun u => if u = "app" then some "old" else none
    creds.new.username = creds.current.username ∧ '\\' ∉ creds.new.password.toList ∧
      (⟨true, false⟩ : RDSClient).dryrun = false ∧
      (RDSClient.setPassword ⟨true, false⟩ creds srv).1 = none ∧
      RDSClient.verifyPassword ⟨true, false⟩ creds (RDSClient.setPassword ⟨true, false⟩ creds srv).2
        = none :=
  ⟨rfl, by decide, rfl, by decide,
    verify_after_set _ _ _ rfl (by decide) rfl (by decide)⟩

/-- `SetPassword` changes the password of the current user, `VerifyPassword` connects
as the new one: when a rotation changes the username the two disagree. -/
theorem verify_after_set_username :
    ¬ ∀ (c : RDSClient) (creds : NewPassword) (srv : Server),
      srv creds.current.username = some creds.current.password → c.dryrun = false →
      (c.setPassword creds srv).1 = none → c.verifyPassword creds (c.setPassword creds srv).2 = none := by
  intro h
  have := h ⟨false, false⟩ ⟨⟨"u1", "db1", "p"⟩, ⟨"u2", "db1", "q"⟩⟩
    (fun u => if u = "u1" then some "p" else if u = "u2" then some "r" else none) rfl rfl (by decide)
  revert this
  decide

end PasswordRotation.Mysql

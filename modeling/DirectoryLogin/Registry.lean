import DirectoryLogin.Connection.Basic
import DirectoryLogin.Password
import DirectoryLogin.Tls
/-!
# Registries

What settings choose by name: the kind of connections, the matcher for stored passwords, the socket factory and
the hostname verifier. An unknown name is a configuration fault that lists the known ones.
-/

namespace DirectoryLogin

/-! ## §1 Matchers -/

/-- How a presented password is compared with a stored one. -/
inductive Matcher where
  /-- The stored password is the password. -/
  | plain
  /-- Every password matches. -/
  | always
  /-- No password matches. -/
  | never
  /-- The stored password is the password read backwards. -/
  | reversed
  /-- The comparison was never provided. -/
  | unprovided
deriving DecidableEq, Repr, Inhabited

/-- Compare a presented password with a stored one. -/
def Matcher.compare (m : Matcher) (presented stored : Option Password) : Except Failure Bool :=
  match m with
  | .plain =>
    match presented, stored with
    | some p, some s => do return (← p.encode) == (← s.encode)
    | _, _ => .ok false
  | .always => .ok true
  | .never => .ok false
  | .reversed =>
    match presented, stored with
    | some p, some s => .ok (p.points == s.points.reverse)
    | _, _ => .ok false
  | .unprovided => .error (.defect .notImplemented "")

/-! ## §2 Entries by name -/

/-- Put an entry under a name, in place of the one that was there. -/
def Registry.put {α : Type} (entries : List (String × α)) (name : String) (a : α) : List (String × α) :=
  entries.filter (fun e => !(e.1 == name)) ++ [(name, a)]

/-- The entry of a name. -/
def Registry.find {α : Type} (kind : RegistryKind) (entries : List (String × α)) (name : String) :
    Except Failure α :=
  match entries.lookup name with
  | some a => .ok a
  | none =>
    let known := (entries.map (·.1)).mergeSort fun a b => !(b < a)
    .error (.configuration (.unknownEntry kind name known))

/-- The registries. -/
structure Registry where
  connectors : List (String × ConnectionKind) := [("ldap3", .standard)]
  matchers : List (String × Matcher) := [("plain", .plain)]
  /-- The hostname verifiers. -/
  verifiers : List (String × TlsArguments) :=
    [("default", { validate := some 2 }), ("allow-all", { validate := some 0 })]
  factories : List (String × SocketFactory) := [("default", .byProtocol)]
deriving Inhabited

namespace Registry

/-! ## §3 Choices of settings -/

def connector (r : Registry) (name : String) : Except Failure ConnectionKind :=
  find .connector r.connectors name

def matcher (r : Registry) (name : String) : Except Failure Matcher :=
  find .matcher r.matchers name

/-- A name that was left out or is empty stands for the usual entry. -/
def nameOrUsual (name : Option String) : String :=
  match name with
  | some n => if n == "" then "default" else n
  | none => "default"

/-- The encryption that settings ask for. -/
def tlsArguments (r : Registry) (s : Settings) : Except Failure TlsArguments := do
  let factory ← find .socketFactory r.factories (nameOrUsual s.sslSocketFactory)
  let fromFactory ← factory.arguments s
  let fromVerifier ← find .hostnameVerifier r.verifiers (nameOrUsual s.hostnameVerifier)
  let arguments := fromFactory.update fromVerifier
  match s.cipherSuiteList with
  | some suites => return { arguments with ciphers := some (":".intercalate suites) }
  | none => return arguments

/-- How the connections of some settings are opened: their kind, and their encryption if they are upgraded. -/
structure Collaborators where
  connector : ConnectionKind
  /-- How they are upgraded to TLS, if they are. -/
  tls : Option TlsArguments
  /-- What is said about the choice. -/
  notes : List Message

/-- How the connections of some settings are opened. -/
def collaborators (r : Registry) (s : Settings) : Except Failure Collaborators := do
  let connector ← r.connector s.contextFactory
  if s.useStartTls then
    let tls ← r.tlsArguments s
    return ⟨connector, some tls, s.cipherSuiteNotes⟩
  else return ⟨connector, none, []⟩

end Registry

end DirectoryLogin

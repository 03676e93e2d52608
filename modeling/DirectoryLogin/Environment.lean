import DirectoryLogin.Settings.Basic
import DirectoryLogin.Value
/-!
# Connection Environments

The environment of a connection names the directory to connect to, the identity to bind as and the limits to
keep. It can be edited while the connection is open: the next request binds again if the identity has changed.
-/

namespace DirectoryLogin

/-- The entries of an environment by name; a name occurs once. -/
abbrev Environment := List (String × Value)

namespace Environment

/-! ## §1 Names of entries -/

/-- The URL of the directory. -/
def providerUrl : String := "provider.url"
/-- The name of the identity. -/
def principal : String := "security.principal"
/-- The password of the identity. -/
def credentials : String := "security.credentials"
/-- The authentication mechanism. -/
def authentication : String := "security.authentication"
def protocol : String := "security.protocol"
/-- What is done with referrals. -/
def referral : String := "referral"
/-- When aliases are followed. -/
def derefAliases : String := "deref.aliases"
/-- How long opening may take. -/
def connectTimeout : String := "connect.timeout"
/-- How long an answer may take. -/
def readTimeout : String := "read.timeout"
/-- Whether the server has to prove its identity too. -/
def serverAuthentication : String := "sasl.server.authentication"
def qualityOfProtection : String := "sasl.qop"
def delegated : String := "sasl.credentials"

/-- The entries that are held back until the connection is encrypted. -/
def securityNames : List String := [authentication, credentials, principal, protocol]

/-- The entries that a delegated credential sets. -/
def delegationNames : List String := [authentication, serverAuthentication, qualityOfProtection, delegated]

/-! ## §2 Reading and editing -/

/-- The entry of a name. -/
def get? : Environment → String → Option Value
  | [], _ => none
  | (key, v) :: rest, name => if key = name then some v else get? rest name

/-- The value of a name; absent and unset are the same. -/
def value (e : Environment) (name : String) : Value :=
  (e.get? name).getD .null

/-- Unset a name. -/
def erase : Environment → String → Environment
  | [], _ => []
  | (key, v) :: rest, name => if key = name then erase rest name else (key, v) :: erase rest name

/-- Set a name. -/
def insert (e : Environment) (name : String) (v : Value) : Environment :=
  (name, v) :: e.erase name

/-- Set a name if there is a text for it. -/
def insertText? (e : Environment) (name : String) : Option String → Environment
  | some s => e.insert name (.text s)
  | none => e

/-- Set a name to a text, or unset it. -/
def assign (e : Environment) (name : String) : Option String → Environment
  | some s => e.insert name (.text s)
  | none => e.erase name

/-- Put an entry back as it was in a preserved environment. -/
def restore (e : Environment) (name : String) (preserved : Option Environment) : Environment :=
  match preserved.bind (·.get? name) with
  | some v => (e.erase name).insert name v
  | none => e.erase name

/-- Two environments set the same names to the same values. -/
def Agrees (e f : Environment) : Prop :=
  ∀ name, e.get? name = f.get? name

/-! ## §3 Laws of reading and editing -/

/-- A name that was unset has no entry. -/
@[simp] theorem get?_erase_self (e : Environment) (name : String) : (e.erase name).get? name = none := by
  induction e with
  | nil => rfl
  | cons entry rest ih =>
    obtain ⟨key, v⟩ := entry
    by_cases same : key = name <;> simp [erase, get?, same, ih]

/-- Unsetting a name leaves the others alone. -/
theorem get?_erase_of_ne (e : Environment) {name other : String} (h : other ≠ name) :
    (e.erase name).get? other = e.get? other := by
  induction e with
  | nil => rfl
  | cons entry rest ih =>
    obtain ⟨key, v⟩ := entry
    by_cases same : key = name
    · subst same
      simp [erase, get?, ih, Ne.symm h]
    · simp [erase, get?, same, ih]

/-- A name that was set has the value it was set to. -/
@[simp] theorem get?_insert_self (e : Environment) (name : String) (v : Value) :
    (e.insert name v).get? name = some v := by
  simp [insert, get?]

/-- Setting a name leaves the others alone. -/
theorem get?_insert_of_ne (e : Environment) {name other : String} (v : Value) (h : other ≠ name) :
    (e.insert name v).get? other = e.get? other := by
  simp [insert, get?, Ne.symm h, get?_erase_of_ne e h]

/-! ## §4 The service environment -/

/-- The URL of an attempt to open a connection: attempt zero goes to the usual URL, any later one to the alternate
one. -/
def urlOf (s : Settings) (attempt : Int) : Option String :=
  if attempt = 0 then s.connectionUrl else if 0 < attempt then s.alternateUrl else none

/-- The environment of an attempt to open a connection. The identity is that of the service. -/
def ofSettings (s : Settings) (attempt : Int) : Environment :=
  let e : Environment := []
  let e := e.insertText? principal s.connectionName
  let e := e.insertText? credentials s.connectionPassword
  let e := e.insertText? authentication s.authentication
  let e := e.insertText? protocol s.protocol
  let e := e.insertText? referral s.referrals
  let e := e.insertText? derefAliases s.derefAliases
  let e := e.insert connectTimeout (.integer s.connectionTimeout)
  let e := e.insert readTimeout (.integer s.readTimeout)
  e.insertText? providerUrl (urlOf s attempt)

end Environment

end DirectoryLogin

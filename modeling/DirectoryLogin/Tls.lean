import DirectoryLogin.Text.Blank
import DirectoryLogin.Url.Bracketed
import DirectoryLogin.World
/-!
# TLS Policies

How the settings of a realm determine the encryption of its connections. A socket factory and a hostname
verifier are chosen by name; what the verifier says wins over what the factory says. An allowed list of cipher
suites in the settings wins over both.
-/

namespace DirectoryLogin

/-! ## §1 Arguments -/

/-- What a factory or a verifier says about the encryption; it need not say everything. -/
structure TlsArguments where
  /-- How the certificate of the server is checked. -/
  validate : Option Int := none
  /-- Options of the socket. -/
  sslOptions : Option (List Int) := none
  /-- The allowed ciphers. -/
  ciphers : Option String := none
deriving DecidableEq, Repr, Inhabited

namespace TlsArguments

/-- What both say; where both say something, the second one counts. -/
def update (a b : TlsArguments) : TlsArguments where
  validate := b.validate.or a.validate
  sslOptions := b.sslOptions.or a.sslOptions
  ciphers := b.ciphers.or a.ciphers

/-- The settings of the encryption. Anything that was left open is not checked. -/
def build (a : TlsArguments) : Except Failure TlsSettings :=
  let validate := a.validate.getD 0
  if 0 ≤ validate ∧ validate ≤ 2 then .ok ⟨validate, a.sslOptions.getD [], a.ciphers⟩
  else .error (.client ⟨"LDAPSSLConfigurationError", "invalid validate parameter"⟩)

end TlsArguments

/-! ## §2 Factories and verifiers -/

/-- The socket option that rules out TLS 1.0. -/
def noTls10 : Int := 67108864
/-- The socket option that rules out TLS 1.1. -/
def noTls11 : Int := 268435456
/-- The socket option that rules out TLS 1.2. -/
def noTls12 : Int := 134217728

/-- The socket options of each least protocol version. -/
def protocolOptions : List (String × List Int) := [
  ("TLS", []),
  ("TLSv1.2", [noTls10, noTls11]),
  ("TLSv1.3", [noTls10, noTls11, noTls12])]

/-- A source of socket options. -/
inductive SocketFactory where
  /-- Options by the least protocol version of the settings. -/
  | byProtocol
  /-- The same arguments for all settings. -/
  | fixed (arguments : TlsArguments)

/-- What a socket factory says. -/
def SocketFactory.arguments (factory : SocketFactory) (s : Settings) : Except Failure TlsArguments :=
  match factory with
  | .fixed arguments => .ok arguments
  | .byProtocol =>
    let version := match s.sslProtocol with
      | some v => if v == "" then "TLS" else v
      | none => "TLS"
    match protocolOptions.lookup version with
    | some options => .ok { sslOptions := some options }
    | none => .error (.configuration (.sslProtocol version (protocolOptions.map (·.1))))

/-! ## §3 Cipher suites -/

/-- The texts between commas, without blanks around them and without empty ones. -/
def commaSeparated (s : String) : List String :=
  ((Url.splitAtMark ',' s.toList).map (Text.trimList Text.isBlank)).filterMap fun part =>
    if part.isEmpty then none else some (String.ofList part)

/-- The allowed cipher suites; absent if there is no list or nothing in it. -/
def Settings.cipherSuiteList (s : Settings) : Option (List String) :=
  match s.cipherSuites.map commaSeparated with
  | some (suite :: suites) => some (suite :: suites)
  | _ => none

/-- What is said about a list of cipher suites that holds none. -/
def Settings.cipherSuiteNotes (s : Settings) : List Message :=
  match s.cipherSuites.map commaSeparated with
  | some [] => [⟨.warning, .settings, "cipher_suites is empty, using the default cipher suites"⟩]
  | _ => []

end DirectoryLogin

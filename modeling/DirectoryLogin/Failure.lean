import DirectoryLogin.Settings.Problem
import DirectoryLogin.Text.Quoted
/-!
# Failures

Everything that can end an operation early, by cause. What a caller may do about a failure depends on its
class: configuration faults are never retried, directory faults are retried once on a new connection, an
interrupt is only passed on. The wording of each failure is in `Failure.message`.
-/

namespace DirectoryLogin

/-! ## §1 Causes -/

/-- The registries whose entries are chosen by name. -/
inductive RegistryKind where
  | connector
  | matcher
  | socketFactory
  | hostnameVerifier
deriving DecidableEq, Repr

/-- Why a configuration cannot be used. -/
inductive ConfigurationFault where
  /-- Some settings were rejected. -/
  | settings (details : List Settings.Detail)
  /-- A template has a brace that belongs to no slot. -/
  | template (pattern : String)
  /-- A pattern of a pattern list is never closed. -/
  | userPattern (raw : String)
  /-- The scheme of a directory URL is not supported. -/
  | urlScheme (scheme url : String)
  /-- A directory URL names no host. -/
  | urlHost (url : String)
  /-- The authentication mechanism is not supported. -/
  | mechanism (name : String)
  /-- The name of a TLS protocol version is not supported. -/
  | sslProtocol (name : String) (known : List String)
  /-- A registry has no entry of this name. -/
  | unknownEntry (kind : RegistryKind) (name : String) (known : List String)
deriving DecidableEq, Repr

/-- An error that the directory protocol reports: the name of its class and its text. -/
structure ClientError where
  /-- The name of the class of errors. -/
  name : String
  /-- The diagnostic text; it may be empty. -/
  text : String
deriving DecidableEq, Repr

/-- What a failed directory request says about the request. -/
inductive DirectoryKind where
  /-- Nothing more than that it failed. -/
  | transient
  /-- The identity was not accepted. -/
  | authentication
  /-- The entry does not exist. -/
  | nameNotFound
  /-- A name could not be read. -/
  | invalidName
  /-- The results are incomplete. -/
  | partialResult
  /-- The results are elsewhere, and the caller asked to be told. -/
  | referral
deriving DecidableEq, Repr

/-- Why a directory request failed. -/
inductive DirectoryFault where
  /-- The protocol reported an error of this kind. -/
  | reported (kind : DirectoryKind) (error : ClientError)
  /-- A bind was answered with a refusal. -/
  | bindRefused
  /-- The upgrade to TLS was answered with a refusal. -/
  | tlsRefused
  /-- A search returned a reference to other servers. -/
  | continuation (asReferral : Bool) (uris : Option (List String))
  /-- A search ended with a referral. -/
  | referralAtEnd (asReferral : Bool)
  /-- A read found no entry. -/
  | noEntry (dn : String)
  /-- A distinguished name cannot be split. -/
  | invalidDn (dn : String)
  /-- The absolute name of a search result is not a usable URL. -/
  | invalidName (name : String)
deriving DecidableEq, Repr

/-- Failures that say nothing about the directory. -/
inductive DefectKind where
  /-- A value has no such attribute. -/
  | missingAttribute
  /-- A value of the wrong kind. -/
  | wrongKind
  /-- A value that cannot be used. -/
  | badValue
  /-- The number of a slot of a template has too many digits. -/
  | longSlot
  /-- An operation at the wrong time. -/
  | badState
  /-- A number beyond what can be represented. -/
  | overflow
  /-- No memory was left. -/
  | outOfMemory
  /-- An operation that was never provided. -/
  | notImplemented
  | other (name : String)
deriving DecidableEq, Repr

/-- Why an operation ended early. -/
inductive Failure where
  /-- The configuration cannot be used. -/
  | configuration (fault : ConfigurationFault)
  /-- No directory URL is configured. -/
  | noUrl
  /-- No connection could be opened; the last attempt was to `url` and failed with `cause`. -/
  | unreachable (url : Option String) (cause : Failure)
  /-- A directory request failed. -/
  | directory (fault : DirectoryFault)
  /-- An error of the directory protocol that nobody has interpreted yet. -/
  | client (error : ClientError)
  /-- A failure outside the directory. -/
  | defect (kind : DefectKind) (text : String)
  /-- The user interrupted the program. -/
  | interrupt (text : String)
  /-- The call would wait for the mutex for ever. -/
  | blocked
deriving DecidableEq, Repr

/-! ## §2 Classes of failures -/

/-- What a directory fault says about the request. -/
def DirectoryFault.kind : DirectoryFault → DirectoryKind
  | .reported kind _ => kind
  | .bindRefused => .authentication
  | .tlsRefused => .transient
  | .continuation asReferral _ => if asReferral then .referral else .partialResult
  | .referralAtEnd asReferral => if asReferral then .referral else .partialResult
  | .noEntry _ => .nameNotFound
  | .invalidDn _ => .invalidName
  | .invalidName _ => .invalidName

namespace Failure

/-- A failure that can be caught: everything but an interrupt and a wait without end. -/
def isOrdinary : Failure → Bool
  | .interrupt _ => false
  | .blocked => false
  | _ => true

/-- The error comes from the directory protocol itself. -/
def isClient : Failure → Bool
  | .client _ => true
  | _ => false

/-- The failure has been classified by the realm. -/
def isClassified : Failure → Bool
  | .configuration _ | .noUrl | .unreachable _ _ | .directory _ => true
  | _ => false

/-- What the failure says about a directory request, if it is about one. -/
def directoryKind? : Failure → Option DirectoryKind
  | .directory fault => some fault.kind
  | _ => none

/-- The failure earns one retry on a fresh connection. -/
def isRetryable : Failure → Bool
  | .directory _ => true
  | .defect .missingAttribute _ => true
  | _ => false

end Failure

/-! ## §3 Wording -/

/-- The texts of a list, separated by commas. -/
def commaList (texts : List String) : String :=
  ", ".intercalate texts

/-- What the entries of a registry are called. -/
def RegistryKind.title : RegistryKind → String
  | .connector => "context factory"
  | .matcher => "credential matcher"
  | .socketFactory => "socket factory"
  | .hostnameVerifier => "hostname verifier"

/-- The code of a name that is missing from a registry. -/
def RegistryKind.code : RegistryKind → String
  | .connector => "UNKNOWN_CONTEXT_FACTORY"
  | .matcher => "UNKNOWN_CREDENTIAL_MATCHER"
  | .socketFactory => "UNKNOWN_SOCKET_FACTORY"
  | .hostnameVerifier => "UNKNOWN_HOSTNAME_VERIFIER"

/-- The text of an unusable configuration. -/
def ConfigurationFault.message : ConfigurationFault → String
  | .settings details =>
    "Invalid realm configuration: " ++ toString details.length ++
      (if details.length == 1 then " validation error" else " validation errors") ++ " for RealmSettings"
  | .template pattern => "Malformed placeholder in template '" ++ pattern ++ "'"
  | .userPattern raw => "Unbalanced parentheses in user pattern '" ++ raw ++ "'"
  | .urlScheme scheme url => "Unsupported directory URL scheme '" ++ scheme ++ "' in " ++ url
  | .urlHost url => "Directory URL has no host: " ++ url
  | .mechanism name => "Unsupported authentication mechanism '" ++ name ++ "'"
  | .sslProtocol name known =>
    "Unsupported ssl_protocol '" ++ name ++ "', expected one of: " ++ commaList known
  | .unknownEntry kind name known =>
    "Unknown " ++ kind.title ++ " '" ++ name ++ "', expected one of: " ++ commaList known

/-- The code of an unusable configuration. -/
def ConfigurationFault.code : ConfigurationFault → String
  | .settings _ => "INVALID_SETTINGS"
  | .template _ => "INVALID_TEMPLATE"
  | .userPattern _ => "INVALID_USER_PATTERN"
  | .urlScheme _ _ => "INVALID_URL"
  | .urlHost _ => "INVALID_URL"
  | .mechanism _ => "INVALID_AUTHENTICATION"
  | .sslProtocol _ _ => "INVALID_SSL_PROTOCOL"
  | .unknownEntry kind _ _ => kind.code

/-- The text of a protocol error. A result code of the server carries five fields that are never set here. -/
def ClientError.detail (e : ClientError) : String :=
  if e.name.endsWith "Result" then
    e.name ++ " - " ++ (if e.text == "" then "None" else e.text) ++ " - None - None - None - None - None"
  else e.text

/-- The text of a protocol error, with the name of its class in front. -/
def ClientError.message (e : ClientError) : String :=
  e.name ++ ": " ++ e.detail

/-- The text of a failed directory request. -/
def DirectoryFault.message : DirectoryFault → String
  | .reported _ e => e.message
  | .bindRefused => "Bind rejected: bind refused"
  | .tlsRefused => "StartTLS failed: tls refused"
  | .continuation _ uris =>
    "Continuation reference returned: " ++
      (match uris with | some texts => Text.quotedList texts | none => "None")
  | .referralAtEnd _ => "Search ended with a referral"
  | .noEntry dn => "No entry named " ++ dn
  | .invalidDn dn => "Invalid name: " ++ dn
  | .invalidName name => "Invalid name: " ++ name

/-- The code of a kind of directory fault. -/
def DirectoryKind.code : DirectoryKind → String
  | .transient => "LDAP_ERROR"
  | .authentication => "AUTHENTICATION"
  | .nameNotFound => "NO_SUCH_OBJECT"
  | .invalidName => "INVALID_DN"
  | .partialResult => "PARTIAL_RESULT"
  | .referral => "REFERRAL"

/-- The code of a failed directory request. -/
def DirectoryFault.code : DirectoryFault → String
  | .tlsRefused => "STARTTLS"
  | .invalidName _ => "INVALID_NAME"
  | fault => fault.kind.code

namespace Failure

/-- The text of a failure. -/
def message : Failure → String
  | .configuration fault => fault.message
  | .noUrl => "No directory URL configured"
  | .unreachable url cause => "Unable to connect to " ++ url.getD "None" ++ ": " ++ cause.message
  | .directory fault => fault.message
  | .client e => e.detail
  | .defect _ text => text
  | .interrupt text => text
  | .blocked => "the mutex is held"

/-- The code of a failure that has been classified. -/
def code? : Failure → Option String
  | .configuration fault => some fault.code
  | .noUrl => some "CONNECT_FAILED"
  | .unreachable _ _ => some "CONNECT_FAILED"
  | .directory fault => some fault.code
  | _ => none

/-- The URL of the last attempt to open a connection. -/
def url? : Failure → Option String
  | .unreachable url _ => url
  | _ => none

end Failure

end DirectoryLogin

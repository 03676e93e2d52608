import DirectoryLogin.Settings.Basic
import DirectoryLogin.Text.Case
import DirectoryLogin.Value
/-!
# Names and Kinds of Settings

Every setting has a name, a kind of value, a usual value and possibly a rule of its own. `Settings.value` is the
view of a complete set of settings by name; `Settings.ofValues` builds a set from such a view.
-/

namespace DirectoryLogin.Settings

/-- The settings, in their order. -/
inductive Field where
  | connectionUrl
  | alternateUrl
  | contextFactory
  | authentication
  | protocol
  | referrals
  | derefAliases
  | connectionTimeout
  | readTimeout
  | connectionName
  | connectionPassword
  | connectionPoolSize
  | userBase
  | userSearch
  | userSubtree
  | userPattern
  | userSearchAsUser
  | userPassword
  | userRoleName
  | userRoleAttribute
  | roleBase
  | roleSearch
  | roleSubtree
  | roleNested
  | roleSearchAsUser
  | roleName
  | commonRole
  | sizeLimit
  | timeLimit
  | useStartTls
  | cipherSuites
  | sslProtocol
  | hostnameVerifier
  | sslSocketFactory
  | useDelegatedCredential
  | spnegoDelegationQop
  | adCompat
  | forceDnHexEscape
  | credentialMatcher
  | logLevel
deriving DecidableEq, Repr

namespace Field

/-- All settings, in their order. -/
def all : List Field := [
  .connectionUrl, .alternateUrl, .contextFactory, .authentication, .protocol,
  .referrals, .derefAliases, .connectionTimeout, .readTimeout, .connectionName,
  .connectionPassword, .connectionPoolSize, .userBase, .userSearch, .userSubtree,
  .userPattern, .userSearchAsUser, .userPassword, .userRoleName, .userRoleAttribute,
  .roleBase, .roleSearch, .roleSubtree, .roleNested, .roleSearchAsUser,
  .roleName, .commonRole, .sizeLimit, .timeLimit, .useStartTls,
  .cipherSuites, .sslProtocol, .hostnameVerifier, .sslSocketFactory, .useDelegatedCredential,
  .spnegoDelegationQop, .adCompat, .forceDnHexEscape, .credentialMatcher, .logLevel]

/-- The name of a setting. -/
def name : Field → String
  | .connectionUrl => "connection_url"
  | .alternateUrl => "alternate_url"
  | .contextFactory => "context_factory"
  | .authentication => "authentication"
  | .protocol => "protocol"
  | .referrals => "referrals"
  | .derefAliases => "deref_aliases"
  | .connectionTimeout => "connection_timeout"
  | .readTimeout => "read_timeout"
  | .connectionName => "connection_name"
  | .connectionPassword => "connection_password"
  | .connectionPoolSize => "connection_pool_size"
  | .userBase => "user_base"
  | .userSearch => "user_search"
  | .userSubtree => "user_subtree"
  | .userPattern => "user_pattern"
  | .userSearchAsUser => "user_search_as_user"
  | .userPassword => "user_password"
  | .userRoleName => "user_role_name"
  | .userRoleAttribute => "user_role_attribute"
  | .roleBase => "role_base"
  | .roleSearch => "role_search"
  | .roleSubtree => "role_subtree"
  | .roleNested => "role_nested"
  | .roleSearchAsUser => "role_search_as_user"
  | .roleName => "role_name"
  | .commonRole => "common_role"
  | .sizeLimit => "size_limit"
  | .timeLimit => "time_limit"
  | .useStartTls => "use_start_tls"
  | .cipherSuites => "cipher_suites"
  | .sslProtocol => "ssl_protocol"
  | .hostnameVerifier => "hostname_verifier"
  | .sslSocketFactory => "ssl_socket_factory"
  | .useDelegatedCredential => "use_delegated_credential"
  | .spnegoDelegationQop => "spnego_delegation_qop"
  | .adCompat => "ad_compat"
  | .forceDnHexEscape => "force_dn_hex_escape"
  | .credentialMatcher => "credential_matcher"
  | .logLevel => "log_level"

/-- The kinds of values. -/
inductive Kind where
  /-- A text that must be there. -/
  | text
  /-- A text that may be absent. -/
  | optionalText
  /-- A whole number. -/
  | integer
  /-- A truth value. -/
  | flag
deriving DecidableEq, Repr

/-- The kind of a setting. -/
def kind : Field → Kind
  | .contextFactory | .userBase | .roleBase | .spnegoDelegationQop | .credentialMatcher | .logLevel => .text
  | .connectionTimeout | .readTimeout | .connectionPoolSize | .sizeLimit | .timeLimit => .integer
  | .userSubtree | .userSearchAsUser | .roleSubtree | .roleNested | .roleSearchAsUser | .useStartTls
  | .useDelegatedCredential | .adCompat | .forceDnHexEscape => .flag
  | _ => .optionalText

end Field

def value (s : Settings) : Field → Value
  | .connectionUrl => .ofOption s.connectionUrl
  | .alternateUrl => .ofOption s.alternateUrl
  | .contextFactory => .text s.contextFactory
  | .authentication => .ofOption s.authentication
  | .protocol => .ofOption s.protocol
  | .referrals => .ofOption s.referrals
  | .derefAliases => .ofOption s.derefAliases
  | .connectionTimeout => .integer s.connectionTimeout
  | .readTimeout => .integer s.readTimeout
  | .connectionName => .ofOption s.connectionName
  | .connectionPassword => .ofOption s.connectionPassword
  | .connectionPoolSize => .integer s.connectionPoolSize
  | .userBase => .text s.userBase
  | .userSearch => .ofOption s.userSearch
  | .userSubtree => .flag s.userSubtree
  | .userPattern => .ofOption s.userPattern
  | .userSearchAsUser => .flag s.userSearchAsUser
  | .userPassword => .ofOption s.userPassword
  | .userRoleName => .ofOption s.userRoleName
  | .userRoleAttribute => .ofOption s.userRoleAttribute
  | .roleBase => .text s.roleBase
  | .roleSearch => .ofOption s.roleSearch
  | .roleSubtree => .flag s.roleSubtree
  | .roleNested => .flag s.roleNested
  | .roleSearchAsUser => .flag s.roleSearchAsUser
  | .roleName => .ofOption s.roleName
  | .commonRole => .ofOption s.commonRole
  | .sizeLimit => .integer s.sizeLimit
  | .timeLimit => .integer s.timeLimit
  | .useStartTls => .flag s.useStartTls
  | .cipherSuites => .ofOption s.cipherSuites
  | .sslProtocol => .ofOption s.sslProtocol
  | .hostnameVerifier => .ofOption s.hostnameVerifier
  | .sslSocketFactory => .ofOption s.sslSocketFactory
  | .useDelegatedCredential => .flag s.useDelegatedCredential
  | .spnegoDelegationQop => .text s.spnegoDelegationQop
  | .adCompat => .flag s.adCompat
  | .forceDnHexEscape => .flag s.forceDnHexEscape
  | .credentialMatcher => .text s.credentialMatcher
  | .logLevel => .text s.logLevel

def usual : Settings := {}

/-- The text that a value is; empty if it is none. -/
def textOf (v : Value) : String :=
  v.text?.getD ""

/-- The whole number that a value is; zero if it is none. -/
def integerOf : Value → Int
  | .integer n => n
  | _ => 0

/-- The truth value that a value is; false if it is none. -/
def flagOf : Value → Bool
  | .flag b => b
  | _ => false

/-- The settings with the given values, each of the kind of its setting. -/
def ofValues (v : Field → Value) : Settings where
  connectionUrl := (v .connectionUrl).text?
  alternateUrl := (v .alternateUrl).text?
  contextFactory := textOf (v .contextFactory)
  authentication := (v .authentication).text?
  protocol := (v .protocol).text?
  referrals := (v .referrals).text?
  derefAliases := (v .derefAliases).text?
  connectionTimeout := integerOf (v .connectionTimeout)
  readTimeout := integerOf (v .readTimeout)
  connectionName := (v .connectionName).text?
  connectionPassword := (v .connectionPassword).text?
  connectionPoolSize := integerOf (v .connectionPoolSize)
  userBase := textOf (v .userBase)
  userSearch := (v .userSearch).text?
  userSubtree := flagOf (v .userSubtree)
  userPattern := (v .userPattern).text?
  userSearchAsUser := flagOf (v .userSearchAsUser)
  userPassword := (v .userPassword).text?
  userRoleName := (v .userRoleName).text?
  userRoleAttribute := (v .userRoleAttribute).text?
  roleBase := textOf (v .roleBase)
  roleSearch := (v .roleSearch).text?
  roleSubtree := flagOf (v .roleSubtree)
  roleNested := flagOf (v .roleNested)
  roleSearchAsUser := flagOf (v .roleSearchAsUser)
  roleName := (v .roleName).text?
  commonRole := (v .commonRole).text?
  sizeLimit := integerOf (v .sizeLimit)
  timeLimit := integerOf (v .timeLimit)
  useStartTls := flagOf (v .useStartTls)
  cipherSuites := (v .cipherSuites).text?
  sslProtocol := (v .sslProtocol).text?
  hostnameVerifier := (v .hostnameVerifier).text?
  sslSocketFactory := (v .sslSocketFactory).text?
  useDelegatedCredential := flagOf (v .useDelegatedCredential)
  spnegoDelegationQop := textOf (v .spnegoDelegationQop)
  adCompat := flagOf (v .adCompat)
  forceDnHexEscape := flagOf (v .forceDnHexEscape)
  credentialMatcher := textOf (v .credentialMatcher)
  logLevel := textOf (v .logLevel)

/-- A set of settings is built back from its values. -/
theorem ofValues_value (s : Settings) : ofValues s.value = s := by
  simp [ofValues, value, textOf, integerOf, flagOf]

end DirectoryLogin.Settings

/-!
# Settings

The settings of a realm. A value of `Settings` is complete and never changes: new settings are a new value. A
`Snapshot` is a value that has been made active, and is told apart from others with the same settings.
-/

namespace DirectoryLogin

/-- All settings of a realm. -/
structure Settings where
  /-- The URL of the directory. -/
  connectionUrl : Option String := none
  /-- The URL that is tried when the first one fails. -/
  alternateUrl : Option String := none
  /-- The name of the connector. -/
  contextFactory : String := "ldap3"
  /-- The mechanism of the service identity. -/
  authentication : Option String := none
  /-- The security protocol of connections. -/
  protocol : Option String := none
  /-- What is done with referrals. -/
  referrals : Option String := none
  /-- When aliases are followed. -/
  derefAliases : Option String := none
  /-- How long opening may take, in milliseconds. -/
  connectionTimeout : Int := 5000
  /-- How long an answer may take, in milliseconds. -/
  readTimeout : Int := 5000
  /-- The name of the service identity. -/
  connectionName : Option String := none
  /-- The password of the service identity. -/
  connectionPassword : Option String := none
  /-- How many idle connections are kept; one means a single shared connection. -/
  connectionPoolSize : Int := 1
  /-- Below which entry users are searched. -/
  userBase : String := ""
  /-- The filter that finds a user. -/
  userSearch : Option String := none
  /-- Users are searched at any depth. -/
  userSubtree : Bool := false
  /-- The patterns of names of users. -/
  userPattern : Option String := none
  /-- Users are searched under their own identity. -/
  userSearchAsUser : Bool := false
  /-- The attribute that holds the password of a user. -/
  userPassword : Option String := none
  /-- The attribute that holds the roles of a user. -/
  userRoleName : Option String := none
  /-- The attribute that role searches refer to. -/
  userRoleAttribute : Option String := none
  /-- Below which entry roles are searched. -/
  roleBase : String := ""
  /-- The filter that finds the roles of a user. -/
  roleSearch : Option String := none
  /-- Roles are searched at any depth. -/
  roleSubtree : Bool := false
  /-- Roles of roles count too. -/
  roleNested : Bool := false
  /-- Roles are searched under the identity of the user. -/
  roleSearchAsUser : Bool := false
  /-- The attribute that holds the name of a role. -/
  roleName : Option String := none
  /-- A role that every user has. -/
  commonRole : Option String := none
  /-- How many entries a search may return; zero means any number. -/
  sizeLimit : Int := 0
  /-- How long a search may take, in milliseconds; zero means any time. -/
  timeLimit : Int := 0
  /-- Connections are upgraded to TLS before anything else. -/
  useStartTls : Bool := false
  /-- The allowed cipher suites, separated by commas. -/
  cipherSuites : Option String := none
  /-- The least TLS version. -/
  sslProtocol : Option String := none
  /-- The name of the hostname verifier. -/
  hostnameVerifier : Option String := none
  /-- The name of the socket factory. -/
  sslSocketFactory : Option String := none
  /-- Lookups for a delegated credential run under it. -/
  useDelegatedCredential : Bool := true
  /-- The quality of protection for a delegated credential. -/
  spnegoDelegationQop : String := "auth-conf"
  /-- References among search results are passed over. -/
  adCompat : Bool := false
  /-- Names are rewritten to the form with two-digit escapes. -/
  forceDnHexEscape : Bool := false
  /-- The name of the matcher for stored passwords. -/
  credentialMatcher : String := "plain"
  /-- The least level of messages that are logged. -/
  logLevel : String := "INFO"
deriving DecidableEq, Repr, Inhabited

/-- Settings that were loaded at one moment. Two snapshots are the same only if they were loaded together. -/
structure Snapshot where
  /-- The number of the moment. -/
  serial : Nat
  /-- What was loaded. -/
  settings : Settings
deriving DecidableEq, Repr, Inhabited

namespace Settings

/-- Idle connections are kept in a pool. -/
def poolingEnabled (s : Settings) : Bool :=
  1 < s.connectionPoolSize

end Settings

end DirectoryLogin

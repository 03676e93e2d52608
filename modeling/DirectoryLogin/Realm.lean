import DirectoryLogin.Credential
import DirectoryLogin.Manager
import DirectoryLogin.Roles
/-!
# Realms

A realm authenticates users against a directory and finds their roles. Its operations do not fail with what goes
wrong in the directory: a failure is written to the journal, and the answer is that there is no principal.

A failure that may be due to a worn-out connection earns one retry. By then the connection that failed is closed
and no idle one is left, so the second attempt runs on a new connection.
-/

namespace DirectoryLogin

/-- What a login establishes: the user whose password was accepted, and the principal made of it. -/
structure Grant where
  user : User
  principal : Principal Value

namespace Exchange

/-! ## §1 Logging in over a connection -/

/-- The principal of a user whose identity has been established, without a delegated credential. -/
def principalOf (h : Handle) (username : String) (user : User) : Exchange (Principal Value) := do
  let roles ← rolesOf h user
  return ⟨username, roles.getD [], .null⟩

/-- Authenticate a user that was found. -/
def authenticateUser (h : Handle) (m : Matcher) (username : String) (password : Password) (user : User) :
    Exchange (Option Grant) := do
  if ← verify h.settings m user (some password) then
    return some ⟨user, ← principalOf h username user⟩
  else return none

/-- How the attempt with one pattern ended. -/
inductive PatternOutcome where
  /-- No entry has the name, or the name cannot be read. -/
  | unresolved
  /-- There may be such an entry, and the password is wrong. -/
  | rejected
  /-- The user is authenticated. -/
  | accepted (g : Grant)

/-- Try the pattern of a number. -/
def tryPattern (h : Handle) (m : Matcher) (username : String) (password : Password) (index : Nat) :
    Exchange PatternOutcome :=
  let attempt : Exchange PatternOutcome := do
    match ← getUser h (some username) (some password) index with
    | none => return .unresolved
    | some user =>
      match ← authenticateUser h m username password user with
      | some g => return .accepted g
      | none => return .rejected
  attempt.rescue fun e =>
    if e.directoryKind? == some .invalidName then some do
      onWorld (World.say .warning .realm ("Invalid name for user " ++ username ++ " with pattern "
        ++ toString index ++ ": " ++ e.message))
      return .unresolved
    else none

/-- Try the patterns from this number on. An entry is only known to exist if attributes were read from it; then
the first one decides. -/
def authenticateByPatterns (h : Handle) (m : Matcher) (username : String) (password : Password) (index : Nat) :
    List Template → Exchange (Option Grant)
  | [] => return none
  | _ :: rest => do
    match ← tryPattern h m username password index with
    | .accepted g => return some g
    | .unresolved => authenticateByPatterns h m username password (index + 1) rest
    | .rejected =>
      -- attributes were read, so the entry exists and this was its password
      if h.settings.attributeIds.isEmpty then authenticateByPatterns h m username password (index + 1) rest
      else return none

/-- Authenticate a user by the patterns, or by a search if there are none. -/
def authenticate (h : Handle) (m : Matcher) (username : String) (password : Password) : Exchange (Option Grant) :=
  match h.templates.userPatterns with
  | some patterns => authenticateByPatterns h m username password 0 patterns
  | none => do
    match ← getUser h (some username) (some password) (-1) with
    | none => return none
    | some user => authenticateUser h m username password user

/-! ## §2 Users that are known already -/

/-- Act under a delegated credential from now on. -/
def assumeDelegated (s : Settings) (credential : Value) : Exchange Unit :=
  edit fun e =>
    (((e.insert Environment.authentication (.text delegationMechanism)).insert Environment.serverAuthentication
      (.text "true")).insert Environment.qualityOfProtection (.text s.spnegoDelegationQop)).insert
      Environment.delegated credential

/-- Put the entries back that a delegated credential sets. -/
def dropDelegated (preserved : Environment) : Exchange Unit :=
  edit fun e => Environment.delegationNames.foldl (fun e name => e.restore name (some preserved)) e

/-- Run a step under a delegated credential, if there is one and it is to be used. -/
def delegating {α : Type} (s : Settings) (credential : Value) (x : Exchange α) : Exchange α := do
  if credential.isPresent && s.useDelegatedCredential then
    let preserved := (← connection).environment
    assumeDelegated s credential
    x.ensure (dropDelegated preserved)
  else x

/-- The principal of a user who was authenticated elsewhere. -/
def knownPrincipal (h : Handle) (username : String) (credential : Value) : Exchange (Option (Principal Value)) :=
  delegating h.settings credential do
    match ← findUser h (some username) with
    | none => return none
    | some user =>
      let roles ← rolesOf h user
      return some ⟨user.username.getD username, roles.getD [], credential⟩

/-- The stored password of a user. -/
def storedPassword (h : Handle) (username : Option String) : Exchange (Option Password) := do
  return (← findUser h username).bind (·.password)

end Exchange

/-! ## §3 State -/

/-- A realm. -/
structure Realm where
  /-- A matcher that was given from outside; it wins over the one that the settings name. -/
  givenMatcher : Option Matcher
  /-- The matcher for stored passwords. -/
  matcher : Matcher
  /-- The connections. -/
  manager : Manager

/-- A step of a realm. -/
abbrev Login (α : Type) := Session Realm α

namespace Managed

/-! ## §4 Running and retrying -/

/-- Run a step over a handle with an open connection. -/
def attempt {α : Type} (x : Handle → Exchange α) : Managed α :=
  withConnection fun id => do
    let some h := (← get).handle? id
      | throw (.defect .missingAttribute "'NoneType' object has no attribute 'settings'")
    onConnection id (x h)

/-- Run a step, and once more on a new connection if it failed in a way that may be mended by that. -/
def attemptTwice {α : Type} (description : String) (x : Handle → Exchange α) : Managed α :=
  (attempt x).rescue fun e =>
    -- by now the failed connection is closed and the pool is empty
    if e.isRetryable then some do
      onWorld (World.say .info .realm
        ("Directory " ++ description ++ " failed, retrying on a new connection: " ++ e.message))
      attempt x
    else none

/-- Run a step with a retry. A failure that remains is reported, and there is no value. -/
def answer {α : Type} (description : String) (x : Handle → Exchange (Option α)) : Managed (Option α) :=
  (attemptTwice description x).rescue fun e =>
    if e.isOrdinary then some do
      onWorld (World.say .error .realm ("Directory " ++ description ++ " failed: " ++ e.message))
      return none
    else none

end Managed

namespace Realm

/-- The matcher of a realm with these settings. -/
def chooseMatcher (given : Option Matcher) (registry : Registry) (s : Settings) : Except Failure Matcher :=
  match given with
  | some m => .ok m
  | none => registry.matcher s.credentialMatcher

def create (registry : Registry) (snapshot : Snapshot) (given : Option Matcher) : Session World Realm := do
  let matcher ← Session.ofExcept (chooseMatcher given registry snapshot.settings)
  let manager ← Manager.create registry snapshot
  return ⟨given, matcher, manager⟩

/-- The active settings. -/
def settings (r : Realm) : Settings :=
  r.manager.active.settings

/-- A connection can be had at once. -/
def isAvailable (r : Realm) : Bool :=
  r.manager.isAvailable

end Realm

namespace Login

/-! ## §5 Operations -/

/-- A step of the manager. -/
def onManager {α : Type} (x : Managed α) : Login α :=
  Session.within Realm.manager (fun m r => { r with manager := m }) x

/-- Write a message. -/
def say (level : Level) (text : String) : Login Unit :=
  onManager (Managed.onWorld (World.say level .realm text))

/-- Open the first connection. A failure is only reported. -/
def start : Login Unit :=
  onManager Managed.start

/-- Close all connections. -/
def stop : Login Unit :=
  onManager Managed.shutdown

/-- Make a snapshot the active one. If it cannot be used, nothing changes. -/
def reconfigure (snapshot : Snapshot) : Login HandleId := do
  let r ← get
  -- the matcher is looked up first and stored last, so that a rejection leaves the old one in place
  let matcher ← Session.ofExcept (Realm.chooseMatcher r.givenMatcher r.manager.registry snapshot.settings)
  let h ← onManager (Managed.reconfigure snapshot)
  modify fun r => { r with matcher := matcher }
  return h

/-- A text, unless it is absent or empty. -/
def nonEmpty? (text : Option String) : Option String :=
  text.filter (· != "")

/-- A password, unless it is absent or empty. -/
def givenPassword? (password : Option Password) : Option Password :=
  password.filter (·.value.isGiven)

theorem nonEmpty?_some {text : String} (h : text ≠ "") : nonEmpty? (some text) = some text := by
  simp [nonEmpty?, h]

theorem givenPassword?_some {password : Password} (h : password ≠ "") :
    givenPassword? (some password) = some password := by
  simp [givenPassword?, Password.isGiven_value_iff, h]

/-- Log a user in by a password. Without a name or without a password nobody is logged in. -/
def grant (username : Option String) (password : Option Password) : Login (Option Grant) :=
  match nonEmpty? username, givenPassword? password with
  | some username, some password => do
    let m := (← get).matcher
    let granted ← onManager (Managed.answer "authentication" fun h =>
      Exchange.authenticate h m username password)
    match granted with
    | some g =>
      say .info ("Authenticated " ++ username ++ " with " ++ toString g.principal.roles.length ++ " roles")
    | none => say .info ("Authentication failed for " ++ username)
    return granted
  | _, _ => return none

/-- Authenticate a user by a password. Only the principal leaves the realm. -/
def authenticate (username : Option String) (password : Option Password) : Login (Option (Principal Value)) := do
  return (← grant username password).map (·.principal)

/-- The stored password of a user, where the settings name the attribute that stores passwords. -/
def getPassword (username : Option String) : Login (Option Password) := do
  if (← get).settings.userPassword.isNone then return none
  onManager (Managed.answer "password lookup" fun h => Exchange.storedPassword h username)

/-- The principal of a user who was authenticated elsewhere, possibly with a delegated credential. -/
def getPrincipal (username : Option String) (credential : Value) : Login (Option (Principal Value)) :=
  match nonEmpty? username with
  | some username =>
    onManager (Managed.answer "principal lookup" fun h => Exchange.knownPrincipal h username credential)
  | none => return none

end Login

end DirectoryLogin

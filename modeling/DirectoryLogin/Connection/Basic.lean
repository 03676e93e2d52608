import DirectoryLogin.Connection.Results
import DirectoryLogin.Timeout
import DirectoryLogin.World
/-!
# Connections

A connection carries an environment, and binds only when it has to: before a search or a read, the identity in
the environment is compared with the one that is bound. To act as somebody else it is enough to edit the
environment and send any request.

Errors of the directory protocol do not leave a connection: they become directory faults.
-/

namespace DirectoryLogin

/-! ## §1 State -/

/-- How a connection gets its answers. -/
inductive ConnectionKind where
  /-- From the directory. -/
  | standard
  /-- From results that were prepared beforehand. -/
  | prepared
deriving DecidableEq, Repr

/-- A connection to a directory. -/
structure Connection where
  /-- How it gets its answers. -/
  kind : ConnectionKind := .standard
  /-- The number of its wire. -/
  wire : Nat
  environment : Environment
  /-- The name under which its other names are relative. -/
  namespaceName : String := ""
  bound : Option Identity := none
  /-- The wire has been upgraded to TLS. -/
  tlsStarted : Bool := false
deriving Inhabited

/-- A connection and the world behind it. -/
structure Channel where
  connection : Connection
  world : World

/-- A step of a connection. -/
abbrev Exchange (α : Type) := Session Channel α

/-- What may be asked of a search. -/
structure SearchControls where
  /-- Entries at any depth, instead of those directly below. -/
  subtree : Bool := false
  /-- How many entries may be returned; zero means any number. -/
  sizeLimit : Int := 0
  /-- How many milliseconds it may take; zero means any time. -/
  timeLimit : Int := 0
  /-- The attributes to return. -/
  attributes : Option (List String) := none

/-- The identity in the environment is the one that is bound. -/
def Connection.isBound (c : Connection) : Bool :=
  c.bound.any c.environment.identity.same

/-- The full name of an entry. -/
def Connection.fullName (c : Connection) (name : String) : String :=
  joinNames [name, c.namespaceName]

/-- Incomplete results are reported as referrals. -/
def Environment.throwsReferrals (e : Environment) : Bool :=
  (e.value referral).text? == some "throw"

def Environment.followsReferrals (e : Environment) : Bool :=
  (e.value referral).text? == some "follow"

/-- When aliases are followed. -/
def Environment.dereference (e : Environment) : Dereference :=
  match (e.value derefAliases).text? with
  | some "never" => .never
  | some "finding" => .findingBase
  | some "searching" => .searching
  | _ => .always

/-! ## §2 Errors of the protocol -/

/-- The errors that mean that an identity was not accepted. -/
def authenticationErrors : List String :=
  ["LDAPInvalidCredentialsResult", "LDAPInappropriateAuthenticationResult", "LDAPInsufficientAccessRightsResult",
    "LDAPBindError", "LDAPPasswordIsMandatoryError"]

/-- What an error says about a request. -/
def ClientError.kind (e : ClientError) (throwsReferrals : Bool) : DirectoryKind :=
  if authenticationErrors.contains e.name then .authentication
  else if e.name == "LDAPNoSuchObjectResult" then .nameNotFound
  else if e.name == "LDAPInvalidDnError" || e.name == "LDAPInvalidDNSyntaxResult" then .invalidName
  else if e.name == "LDAPReferralResult" then (if throwsReferrals then .referral else .partialResult)
  else .transient

/-- An error as a failure of a request. -/
def ClientError.toFailure (e : ClientError) (throwsReferrals : Bool) : Failure :=
  .directory (.reported (e.kind throwsReferrals) e)

namespace Exchange

/-! ## §3 Parts of the state -/

/-- A step of the world. -/
def onWorld {α : Type} (x : Session World α) : Exchange α :=
  Session.within Channel.world (fun w c => { c with world := w }) x

def connection : Exchange Connection := do
  return (← get).connection

/-- Change the connection. -/
def modifyConnection (f : Connection → Connection) : Exchange Unit :=
  modify fun c => { c with connection := f c.connection }

def edit (f : Environment → Environment) : Exchange Unit :=
  modifyConnection fun c => { c with environment := f c.environment }

/-- Report errors of the protocol as failures of the request. -/
def classified {α : Type} (x : Exchange α) : Exchange α :=
  x.rescue fun
    | .client e => some do
      let c ← connection
      throw (e.toFailure c.environment.throwsReferrals)
    | _ => none

/-! ## §4 Binding -/

/-- Bind as the identity in the environment, unless it is bound already. -/
def bind : Exchange Unit := do
  let c ← connection
  if c.isBound then return
  let request ← Session.ofExcept (BindRequest.ofEnvironment c.environment)
  -- nobody is bound until the bind has been accepted
  modifyConnection fun c => { c with bound := none }
  let accepted ← classified (onWorld (World.bindWire c.wire request))
  if !accepted then throw (.directory .bindRefused)
  modifyConnection fun d => { d with bound := some c.environment.identity }

/-! ## §5 Searching and reading -/

def searchRequest (c : Connection) (base filter : String) (controls : SearchControls) : SearchRequest where
  base := c.fullName base
  filter := filter
  scope := if controls.subtree then .subtree else .level
  wanted := match controls.attributes with
    | some (name :: names) => .named (name :: names)
    | _ => .unspecified
  dereference := c.environment.dereference
  limits := some ⟨controls.sizeLimit, Timeout.wholeSeconds controls.timeLimit⟩

def readRequest (c : Connection) (dn : String) (names : Option (List String)) : SearchRequest where
  base := c.fullName dn
  filter := "(objectClass=*)"
  scope := .base
  wanted := match names with
    | some names => .named names
    | none => .all
  dereference := c.environment.dereference
  limits := none

/-- Search below a base that is relative to the connection's own name. -/
def search (base filter : String) (controls : SearchControls) : Exchange Results := do
  bind
  let c ← connection
  match c.kind with
  | .standard =>
    let request := searchRequest c base filter controls
    let response ← classified (onWorld (World.searchWire c.wire request))
    return Results.ofResponse request.base c.environment.throwsReferrals response
  | .prepared =>
    onWorld (modify (·.record c.wire (.preparedSearch base filter)))
    let w := (← get).world
    return ⟨(w.directory.prepared.lookup filter).getD [], none⟩

/-- Read attributes of one entry; without a list of names, all of them. An empty name is the root. -/
def read (dn : String) (names : Option (List String)) : Exchange (Option Attributes) := do
  bind
  let c ← connection
  match c.kind with
  | .standard =>
    let response ← classified (onWorld (World.searchWire c.wire (readRequest c dn names)))
    match response.firstEntry? with
    | some attributes => return some (Attributes.decode attributes)
    | none => throw (.directory (.noEntry dn))
  | .prepared =>
    onWorld (modify (·.record c.wire (.preparedRead dn)))
    let w := (← get).world
    return w.directory.preparedReads.lookup dn

/-! ## §6 Encryption and the end -/

/-- Upgrade to TLS. The value is the protocol version, as far as it is known. -/
def startTls : Exchange String := do
  let c ← connection
  let accepted ← classified (onWorld (World.startTlsWire c.wire))
  if !accepted then throw (.directory .tlsRefused)
  modifyConnection fun c => { c with tlsStarted := true }
  match (← get).world.directory.tlsVersion with
  | some version => return if version == "" then "TLS" else version
  | none => return "TLS"

/-- End the connection. -/
def close : Exchange Unit := do
  let c ← connection
  (classified (onWorld (World.unbindWire c.wire))).ensure
    (modifyConnection fun c => { c with bound := none, tlsStarted := false })

end Exchange

end DirectoryLogin

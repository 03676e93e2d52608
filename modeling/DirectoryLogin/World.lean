import DirectoryLogin.Bind
import DirectoryLogin.Directory.Basic
import DirectoryLogin.Session
/-!
# The World behind Connections

What connections talk to: a directory, the wires that lead to it, faults that are due to happen, a record of the
requests that were sent, and the journal of messages.

Every request is recorded before anything else happens to it. Then a fault may make it fail or be refused; only
after that does the directory look at it.
-/

namespace DirectoryLogin

/-! ## §1 Requests -/

/-- How connections are encrypted. -/
structure TlsSettings where
  /-- How the certificate of the server is checked: 0 not at all, 1 if there is one, 2 always. -/
  validate : Int
  /-- Options of the socket. -/
  sslOptions : List Int
  /-- The allowed ciphers. -/
  ciphers : Option String
deriving DecidableEq, Repr

/-- How a wire is opened. -/
structure OpenRequest where
  host : String
  port : Nat
  /-- The wire is encrypted from the start. -/
  secure : Bool
  /-- How long opening may take, in milliseconds. -/
  connectTimeout : Option Nat
  /-- How long an answer may take, in milliseconds. -/
  receiveTimeout : Option Nat
  followReferrals : Bool
  /-- How the wire is encrypted. -/
  tls : Option TlsSettings
deriving DecidableEq, Repr

/-- A request on a wire. -/
inductive Request where
  /-- Open the wire. -/
  | connect (request : OpenRequest)
  /-- Bind as an identity. -/
  | bind (request : BindRequest)
  /-- Search the directory. -/
  | search (request : SearchRequest)
  /-- Upgrade to TLS. -/
  | startTls
  /-- End the connection. -/
  | unbind
  /-- Ask for prepared results. -/
  | preparedSearch (base filter : String)
  /-- Ask for a prepared read. -/
  | preparedRead (dn : String)

/-- A request, and the number of the wire that it was sent on. -/
structure Event where
  /-- The number of the wire. -/
  wire : Nat
  /-- What was sent. -/
  request : Request

/-! ## §2 Faults -/

/-- The calls that a fault can hit. -/
inductive Call where
  | connect
  | bind
  | search
  | startTls
  | unbind
deriving DecidableEq, Repr

/-- A fault that is due to happen. -/
structure Fault where
  /-- The calls it hits; every call if none is named. -/
  on : Option Call
  /-- How many calls it lets pass. -/
  skip : Nat
  /-- The failure it causes; a refusal if there is none. -/
  failure : Option Failure

/-- A fault looks at a call. -/
def Fault.hits (f : Fault) (call : Call) : Bool :=
  f.on.all (· == call)

/-- The first fault that looks at a call, and the faults that are left. A fault that lets the call pass waits
for one call less; a fault that strikes is gone. -/
def Fault.strike (call : Call) : List Fault → Option Fault × List Fault
  | [] => (none, [])
  | f :: rest =>
    if f.hits call then
      match f.skip with
      | skip + 1 => (none, { f with skip := skip } :: rest)
      | 0 => (some f, rest)
    else
      let (struck, left) := strike call rest
      (struck, f :: left)

/-! ## §3 State -/

/-- A wire to the directory. -/
structure Wire where
  /-- The wire has been opened and not ended. -/
  isOpen : Bool := false
  /-- The name that was last bound. -/
  boundUser : Value := .null

/-- The levels of messages. -/
inductive Level where
  | info
  | warning
  | error
deriving DecidableEq, Repr

/-- The parts of the program that write messages. -/
inductive Source where
  | settings
  | connections
  | users
  | realm
deriving DecidableEq, Repr

/-- A message of the journal. -/
structure Message where
  level : Level
  /-- Who wrote it. -/
  source : Source
  /-- What it says. -/
  text : String
deriving DecidableEq, Repr

/-- Everything outside the connections. -/
structure World where
  directory : Directory := {}
  /-- The faults that are due, in order. -/
  faults : List Fault := []
  /-- The wires, numbered from one. -/
  wires : List Wire := []
  /-- The requests that were sent, oldest first. -/
  events : List Event := []
  /-- The messages that were written, oldest first. -/
  journal : List Message := []
deriving Inhabited

namespace World

/-- The wire of a number. -/
def wire? (w : World) (n : Nat) : Option Wire :=
  if n = 0 then none else w.wires[n - 1]?

/-- Change the wire of a number. -/
def updateWire (w : World) (n : Nat) (f : Wire → Wire) : World :=
  if n = 0 then w else { w with wires := w.wires.modify (n - 1) f }

/-- The numbers of the open wires, in order. -/
def openWires (w : World) : List Nat :=
  (List.range (w.wires.length + 1)).filter fun n => (w.wire? n).any (·.isOpen)

def record (w : World) (n : Nat) (request : Request) : World :=
  { w with events := w.events ++ [⟨n, request⟩] }

def write (w : World) (m : Message) : World :=
  { w with journal := w.journal ++ [m] }

/-! ## §4 Requests on a wire -/

def newWire : Session World Nat := do
  let w ← get
  set { w with wires := w.wires ++ [Wire.mk false .null] }
  return w.wires.length + 1

/-- Record a request and let the faults look at it. The answer is whether the request goes through. -/
def send (call : Call) (n : Nat) (request : Request) : Session World Bool := do
  modify (·.record n request)
  let (struck, left) := Fault.strike call (← get).faults
  modify fun w => { w with faults := left }
  match struck with
  | none => return true
  | some fault =>
    match fault.failure with
    | some e => throw e
    | none => return false

def openWire (n : Nat) (request : OpenRequest) : Session World Unit := do
  let _ ← send .connect n (.connect request)
  if (← get).directory.refuses request.host request.port then
    throw (.client ⟨"LDAPSocketOpenError", "refused by " ++ request.host ++ ":" ++ toString request.port⟩)
  modify (·.updateWire n fun wire => { wire with isOpen := true })

/-- Check a bind request against the directory: the name that it binds, or the error it is answered with. -/
def checkBind (d : Directory) (request : BindRequest) : Except ClientError Value := do
  match request.authentication with
  | .anonymous =>
    if d.denyAnonymous then throw ⟨"LDAPInappropriateAuthenticationResult", "anonymous denied"⟩
    return request.user
  | .simple =>
    d.checkPassword request.user request.password
    return request.user
  | .sasl =>
    if d.denySasl then throw ⟨"LDAPAuthMethodNotSupportedResult", "sasl denied"⟩
    match request.mechanism with
    | some .digestMd5 =>
      let given := request.saslCredentials.getD []
      let user := given[1]?.getD .null
      d.checkPassword user (given[2]?.getD .null)
      return user
    | _ => return request.user

/-- Bind. The answer is whether the bind was accepted. -/
def bindWire (n : Nat) (request : BindRequest) : Session World Bool := do
  if ← send .bind n (.bind request) then
    match checkBind (← get).directory request with
    | .ok user =>
      modify (·.updateWire n fun wire => { wire with boundUser := user })
      return true
    | .error e => throw (.client e)
  else return false

def searchWire (n : Nat) (request : SearchRequest) : Session World Response := do
  let _ ← send .search n (.search request)
  let w ← get
  match w.directory.search ((w.wire? n).map (·.boundUser) |>.getD .null) request with
  | .ok response => return response
  | .error e => throw (.client e)

/-- Upgrade to TLS. The answer is whether the upgrade was accepted. -/
def startTlsWire (n : Nat) : Session World Bool :=
  send .startTls n .startTls

/-- End the connection. The wire is closed even if the request fails. -/
def unbindWire (n : Nat) : Session World Unit := do
  -- closed first: a fault in the request does not keep the wire open
  modify (·.updateWire n fun wire => { wire with isOpen := false })
  let _ ← send .unbind n .unbind
  return

/-- Write a message. -/
def say (level : Level) (source : Source) (text : String) : Session World Unit :=
  modify (·.write ⟨level, source, text⟩)

end World

end DirectoryLogin

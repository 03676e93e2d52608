import DirectoryLogin.Connection.Basic
import DirectoryLogin.ProviderUrl
import DirectoryLogin.Tls
/-!
# Opening Connections

A connection is opened to the URL in its environment, and bound right away unless told otherwise. With a TLS
policy it is opened without an identity, upgraded, and only then given the identity back, so that the first bind
goes over the encrypted wire.
-/

namespace DirectoryLogin

/-- Run a step on a connection; the value comes with the connection as it is afterwards. -/
def Connection.run {α : Type} (c : Connection) (x : Exchange α) : Session World (α × Connection) :=
  Session.ofFunction fun w =>
    let (result, channel) := x.perform ⟨c, w⟩
    (result.map (·, channel.connection), channel.world)

namespace Connection

/-- End a connection whose failure has been reported already. Errors of the protocol are of no interest. -/
def abandon (wire : Nat) : Session World Unit :=
  (World.unbindWire wire).rescue fun e => if e.isClient then some (return) else none

/-- Open a connection to the directory. -/
def openStandard (e : Environment) (bindNow : Bool) (tls : Option TlsSettings) : Session World Connection := do
  let url := e.value Environment.providerUrl
  if !url.isGiven then throw .noUrl
  let some text := url.text?
    | throw (.defect .missingAttribute ("'" ++ url.kindName ++ "' object has no attribute 'strip'"))
  let target ← Session.ofExcept (ProviderUrl.parse text)
  let secure := target.secure || (e.value Environment.protocol).text? == some "ssl"
  let connectTimeout ← Session.ofExcept (Timeout.ofValue (e.value Environment.connectTimeout))
  let receiveTimeout ← Session.ofExcept (Timeout.ofValue (e.value Environment.readTimeout))
  -- the wire has its number even if it cannot be opened
  let wire ← World.newWire
  (World.openWire wire
    { host := target.host, port := target.port, secure := secure, connectTimeout := connectTimeout,
      receiveTimeout := receiveTimeout, followReferrals := e.followsReferrals, tls := tls }).rescue fun
    | .client error => some (throw (error.toFailure e.throwsReferrals))
    | _ => none
  let c : Connection := { wire := wire, environment := e, namespaceName := target.namespaceName }
  if bindNow then
    let (_, c) ← (c.run Exchange.bind).onFailure Failure.isClassified fun _ => abandon wire
    return c
  else return c

/-- Open a connection to prepared results. It needs no URL. -/
def openPrepared (e : Environment) (bindNow : Bool) : Session World Connection := do
  let wire ← World.newWire
  let c : Connection := { kind := .prepared, wire := wire, environment := e }
  if bindNow then
    let (_, c) ← c.run Exchange.bind
    return c
  else return c

def openAs (kind : ConnectionKind) (e : Environment) (bindNow : Bool) (tls : Option TlsSettings) :
    Session World Connection :=
  match kind with
  | .standard => openStandard e bindNow tls
  | .prepared => openPrepared e bindNow

/-- An environment without the entries that are held back. -/
def withoutSecurity (e : Environment) : Environment :=
  Environment.securityNames.foldl Environment.erase e

/-- An environment with the entries put back that were held back. -/
def restoreSecurity (e saved : Environment) : Environment :=
  Environment.securityNames.foldl (fun e name =>
    match saved.get? name with
    | some v => e.insert name v
    | none => e) e

/-- Upgrade to TLS, or close the connection and fail. What goes wrong while closing is of no interest. -/
def upgrade : Exchange String :=
  Exchange.startTls.onFailure Failure.isOrdinary fun _ =>
    Exchange.close.rescue fun e => if e.isOrdinary then some (return) else none

/-- Open a connection without an identity, upgrade it, and give it the identity of the environment. -/
def openEncrypted (kind : ConnectionKind) (e : Environment) (policy : TlsArguments) :
    Session World Connection := do
  let tls ← Session.ofExcept policy.build
  let c ← openAs kind (withoutSecurity e) false (some tls)
  let (_, c) ← c.run upgrade
  return { c with environment := restoreSecurity c.environment e }

/-- Open a connection, encrypted if there is a policy. -/
def openWith (kind : ConnectionKind) (policy : Option TlsArguments) (e : Environment) :
    Session World Connection :=
  match policy with
  | some policy => openEncrypted kind e policy
  | none => openAs kind e true none

end Connection

end DirectoryLogin

import DirectoryLogin.Environment
import DirectoryLogin.Failure
import DirectoryLogin.Text.Case
/-!
# Bind Requests

The identity in an environment, and the bind request that establishes it. The mechanism is compared without
case. Without a mechanism the bind is a simple one if there is a name to bind as, and anonymous if not.
-/

namespace DirectoryLogin

/-! ## §1 Identities -/

/-- The entries of an environment that make up an identity. -/
structure Identity where
  /-- The name. -/
  principal : Value
  /-- The password. -/
  credentials : Value
  /-- The mechanism. -/
  authentication : Value
  /-- The delegated credential. -/
  delegated : Value
deriving Inhabited

/-- Two identities are the same. -/
def Identity.same (i j : Identity) : Bool :=
  i.principal.same j.principal && i.credentials.same j.credentials
    && i.authentication.same j.authentication && i.delegated.same j.delegated

def Environment.identity (e : Environment) : Identity where
  principal := e.value principal
  credentials := e.value credentials
  authentication := e.value authentication
  delegated := e.value delegated

/-! ## §2 Requests -/

/-- How a bind proves the identity. -/
inductive Authentication where
  | anonymous
  | simple
  | sasl
deriving DecidableEq, Repr

/-- The mechanisms that are negotiated. -/
inductive SaslMechanism where
  | gssapi
  | digestMd5
deriving DecidableEq, Repr

/-- The fields of a bind request. -/
structure BindRequest where
  /-- The name to bind as. -/
  user : Value := .null
  password : Value := .null
  /-- How the identity is proved. -/
  authentication : Authentication
  /-- The negotiated mechanism. -/
  mechanism : Option SaslMechanism := none
  /-- What the negotiated mechanism is given. -/
  saslCredentials : Option (List Value) := none

/-- The name of the mechanism in an environment. -/
def Environment.mechanism (e : Environment) : Value :=
  match e.value authentication with
  | .null => .text (if (e.value principal).isGiven then "simple" else "none")
  | v => v

/-- The request that binds as the identity of an environment. -/
def BindRequest.ofEnvironment (e : Environment) : Except Failure BindRequest :=
  match e.mechanism with
  | .text name =>
    if Text.lower name == "none" then .ok { authentication := .anonymous }
    else if Text.lower name == "simple" then
      .ok { user := e.value Environment.principal, password := e.value Environment.credentials,
            authentication := .simple }
    else if Text.upper name == "GSSAPI" then
      let token := e.value Environment.delegated
      .ok { authentication := .sasl, mechanism := some .gssapi,
            saslCredentials := if token.isPresent then some [.null, .null, token] else none }
    else if Text.upper name == "DIGEST-MD5" then
      .ok { authentication := .sasl, mechanism := some .digestMd5,
            saslCredentials :=
              some [.null, e.value Environment.principal, e.value Environment.credentials, .null] }
    else .error (.configuration (.mechanism name))
  | v => .error (.defect .missingAttribute ("'" ++ v.kindName ++ "' object has no attribute 'lower'"))

end DirectoryLogin

import DirectoryLogin.Text.Blank
import DirectoryLogin.Text.Percent
import DirectoryLogin.Url.Split
/-!
# Provider URLs

The URL of a directory: `ldap` or `ldaps`, a host, an optional port, and in its path the name of the entry under
which all other names are relative.
-/

namespace DirectoryLogin

/-- What a directory URL says. -/
structure ProviderUrl where
  host : String
  port : Nat
  /-- The connection is encrypted from the start. -/
  secure : Bool
  /-- The name under which all other names are relative. -/
  namespaceName : String
deriving DecidableEq, Repr

namespace ProviderUrl

/-- The port of a scheme; other schemes are not supported. -/
def defaultPort? (scheme : String) : Option Nat :=
  if scheme == "ldap" then some 389 else if scheme == "ldaps" then some 636 else none

/-- Read a directory URL. A port of zero counts as no port. -/
def parse (text : String) : Except Failure ProviderUrl := do
  let url ← (Url.split (Text.strip text)).mapError Url.Fault.toFailure
  let scheme := if url.scheme == "" then "ldap" else url.scheme
  let some usual := defaultPort? scheme | throw (.configuration (.urlScheme scheme text))
  let some host := url.host? | throw (.configuration (.urlHost text))
  -- the port is looked at last: a missing host is reported before a bad port
  let port ← url.port?.mapError Url.Fault.toFailure
  let port := match port with
    | some 0 => usual
    | some n => n
    | none => usual
  return ⟨host, port, scheme == "ldaps", Text.percentDecode (String.ofList (url.path.drop 1))⟩

end ProviderUrl

end DirectoryLogin

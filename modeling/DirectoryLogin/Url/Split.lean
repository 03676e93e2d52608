import DirectoryLogin.Failure
import DirectoryLogin.Number.Literal
import DirectoryLogin.Text.Case
import DirectoryLogin.Url.Bracketed
/-!
# Splitting URLs

A URL is split into its scheme, its authority and its path; query and fragment are dropped. Host and port are
read from the authority on demand, so a bad port is an error only where a port is wanted.
-/

namespace DirectoryLogin

/-- The parts of a URL that a directory client needs. -/
structure Url where
  /-- The scheme in lower case; empty if there is none. -/
  scheme : String
  /-- What stands between `//` and the path: user, host and port. -/
  authority : List Char
  /-- The path, as it is written. -/
  path : List Char
deriving DecidableEq, Repr

namespace Url

/-! ## §1 Faults -/

/-- Why a text is not a URL. -/
inductive Fault where
  /-- A bracket of the authority has no partner. -/
  | brackets
  /-- The host in brackets claims a later version of addresses and is malformed. -/
  | futureAddress
  /-- The host in brackets is a dotted address. -/
  | dottedAddress
  /-- The host in brackets is no address. -/
  | noAddress (host : String)
  /-- A character of the authority reads as a delimiter in its plain form. -/
  | confusable (authority : String)
  /-- The port is not a number. -/
  | portText (port : String)
  /-- The port has too many digits. -/
  | portDigits (digits : Nat)
  /-- The port is too large. -/
  | portRange
deriving DecidableEq, Repr

/-- The text of a URL fault. -/
def Fault.message : Fault → String
  | .brackets => "Invalid IPv6 URL"
  | .futureAddress => "IPvFuture address is invalid"
  | .dottedAddress => "An IPv4 address cannot be in brackets"
  | .noAddress host => Text.quoted host ++ " does not appear to be an IPv4 or IPv6 address"
  | .confusable authority =>
    "netloc '" ++ authority ++ "' contains invalid characters under NFKC normalization"
  | .portText port => "Port could not be cast to integer value as " ++ Text.quoted port
  | .portDigits digits => Number.limitText digits
  | .portRange => "Port out of range 0-65535"

/-- A URL fault as a failure. -/
def Fault.toFailure (fault : Fault) : Failure :=
  .defect .badValue fault.message

/-! ## §2 Cutting -/

/-- The characters before the first occurrence of a mark, and those after it if it occurs. -/
def cutAt (mark : Char) (cs : List Char) : List Char × Option (List Char) :=
  (cs.takeWhile (· != mark), ((cs.dropWhile (· != mark)).tail?))

/-- The characters after the last occurrence of a mark; all of them if it does not occur. -/
def afterLast (mark : Char) (cs : List Char) : List Char :=
  (cs.reverse.takeWhile (· != mark)).reverse

/-- A character that a scheme may hold. -/
def isSchemeChar (c : Char) : Bool :=
  c.isAlphanum || c == '+' || c == '-' || c == '.'

/-- The scheme in front of the first colon, if what stands there is one, and the rest. -/
def splitScheme (cs : List Char) : List Char × List Char :=
  match cutAt ':' cs with
  | (c :: more, some rest) =>
    if c.isAlpha && more.all isSchemeChar then ((c :: more).map Char.toLower, rest) else ([], cs)
  | _ => ([], cs)

/-- A character that ends the authority. -/
def endsAuthority (c : Char) : Bool :=
  c == '/' || c == '?' || c == '#'

/-- The authority after `//`, and the rest. -/
def splitAuthority : List Char → List Char × List Char
  | '/' :: '/' :: rest => (rest.takeWhile (!endsAuthority ·), rest.dropWhile (!endsAuthority ·))
  | cs => ([], cs)

/-- The schemes whose last path segment may end in parameters. -/
def schemesWithParameters : List String :=
  ["", "ftp", "hdl", "prospero", "http", "imap", "https", "shttp", "rtsp", "rtsps", "rtspu", "sip", "sips",
    "mms", "sftp", "tel"]

/-- A path without the parameters of its last segment. -/
def dropParameters (path : List Char) : List Char :=
  let segment := afterLast '/' path
  path.take (path.length - segment.length) ++ (cutAt ';' segment).1

/-! ## §3 Checking the authority -/

/-- Characters whose plain form holds one of `/?#@:`. -/
def confusables : List Nat :=
  [0x2047, 0x2048, 0x2049, 0x2100, 0x2101, 0x2105, 0x2106, 0x2A74, 0xFE13, 0xFE16, 0xFE55, 0xFE56, 0xFE5F,
    0xFE6B, 0xFF03, 0xFF0F, 0xFF1A, 0xFF1F, 0xFF20]

/-- What is wrong with the brackets of an authority. -/
def bracketFault? (authority : List Char) : Option Fault :=
  match authority.contains '[', authority.contains ']' with
  | false, false => none
  | true, true =>
    -- brackets in the wrong order leave an empty or cut-off host, which is no address
    let host := (cutAt ']' ((cutAt '[' authority).2.getD [])).1
    if host.head? == some 'v' then (if isFutureAddress host then none else some .futureAddress)
    else if isDottedAddress host then some .dottedAddress
    else if isGroupedAddress host then none
    else some (.noAddress (String.ofList host))
  | _, _ => some .brackets

/-- What is wrong with an authority. -/
def authorityFault? (authority : List Char) : Option Fault :=
  match bracketFault? authority with
  | some fault => some fault
  | none =>
    if authority.any fun c => confusables.contains c.toNat then some (.confusable (String.ofList authority))
    else none

/-! ## §4 The parts of a URL -/

/-- A control character or a space, which may stand in front of a URL. -/
def isLeading (c : Char) : Bool :=
  c.toNat ≤ 0x20

/-- Tabs and line breaks, which are removed wherever they stand. -/
def isRemoved (c : Char) : Bool :=
  c == '\t' || c == '\r' || c == '\n'

def split (text : String) : Except Fault Url :=
  let cs := (text.toList.dropWhile isLeading).filter (!isRemoved ·)
  let (scheme, rest) := splitScheme cs
  let scheme := String.ofList scheme
  let (authority, rest) := splitAuthority rest
  match authorityFault? authority with
  | some fault => .error fault
  | none =>
    let path := (cutAt '?' (cutAt '#' rest).1).1
    .ok ⟨scheme, authority, if schemesWithParameters.contains scheme then dropParameters path else path⟩

/-- The part of the authority after the user. -/
def hostPart (url : Url) : List Char :=
  afterLast '@' url.authority

/-- The host and the port as they are written. -/
def hostAndPort (url : Url) : List Char × List Char :=
  match cutAt '[' url.hostPart with
  | (_, some bracketed) =>
    let (host, after) := cutAt ']' bracketed
    (host, (cutAt ':' (after.getD [])).2.getD [])
  | (_, none) =>
    let (host, port) := cutAt ':' url.hostPart
    (host, port.getD [])

/-- The host in lower case, except for a zone after a percent sign. -/
def host? (url : Url) : Option String :=
  let (host, _) := url.hostAndPort
  if host.isEmpty then none
  else
    let name := host.takeWhile (· != '%')
    some (Text.lower (String.ofList name) ++ String.ofList (host.drop name.length))

/-- The port, if one is given. -/
def port? (url : Url) : Except Fault (Option Nat) :=
  let (_, port) := url.hostAndPort
  if port.isEmpty then .ok none
  else if port.all fun c => (Text.asciiDigit? c).isSome then
    -- zeros in front count as digits
    if Number.digitLimit < port.length then .error (.portDigits port.length)
    else
      let n := port.foldl (fun n c => 10 * n + (Text.asciiDigit? c).getD 0) 0
      if n ≤ 65535 then .ok (some n) else .error .portRange
  else .error (.portText (String.ofList port))

end Url

end DirectoryLogin

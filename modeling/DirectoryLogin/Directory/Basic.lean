import DirectoryLogin.Attributes
import DirectoryLogin.Failure
/-!
# Directories

What a directory holds and what it answers. Searches below an entry are answered from a table of filters; reads
of a single entry, and binds, are answered from the entries and the passwords.

A directory can also hold prepared results, which a connector of another kind hands out as they are.
-/

namespace DirectoryLogin

/-! ## §1 Searches -/

/-- How far a search reaches. -/
inductive Scope where
  /-- The entry itself. -/
  | base
  /-- The entries directly below it. -/
  | level
  /-- All entries below it. -/
  | subtree
deriving DecidableEq, Repr

/-- When aliases are followed. -/
inductive Dereference where
  | always
  | never
  | findingBase
  | searching
deriving DecidableEq, Repr

/-- The attributes that a search asks for. -/
inductive Wanted where
  /-- No list was given. -/
  | unspecified
  /-- Every attribute. -/
  | all
  /-- The attributes of a list. -/
  | named (names : List String)
deriving DecidableEq, Repr

/-- The limits of a search. -/
structure Limits where
  /-- How many entries may be returned. -/
  size : Int
  /-- How many seconds it may take. -/
  time : Int
deriving DecidableEq, Repr

/-- A search request. -/
structure SearchRequest where
  /-- The entry where the search starts. -/
  base : String
  filter : String
  /-- How far it reaches. -/
  scope : Scope
  /-- The attributes it asks for. -/
  wanted : Wanted
  /-- When aliases are followed. -/
  dereference : Dereference
  /-- Its limits; a read of one entry has none. -/
  limits : Option Limits
deriving DecidableEq, Repr

/-- One item of the answer to a search. -/
inductive ResponseItem where
  /-- An entry, with its raw attributes. -/
  | entry (dn : String) (attributes : Option Attributes)
  /-- A reference to other servers. -/
  | reference (uris : Option (List String))
  /-- Anything else. -/
  | other

/-- The answer to a search. -/
structure Response where
  /-- Its items, in order. -/
  items : List ResponseItem := []
  /-- Its result code; zero if all went well. -/
  code : Int := 0
deriving Inhabited

/-- The result code of a search that ended with a referral. -/
def Response.referralCode : Int := 10

/-- A result of a search. The name is relative to the base of the search, or the URL of an entry elsewhere. -/
structure SearchResult where
  name : String
  /-- The name is relative. -/
  isRelative : Bool := true
  /-- The attributes; absent if there are none to be had. -/
  attributes : Option Attributes := some []

/-! ## §2 Directories -/

/-- How one line of the table of filters is answered. -/
inductive Answer where
  /-- An entry with the attributes that the directory holds for it. -/
  | known (dn : String)
  /-- An item that is spelled out. -/
  | item (i : ResponseItem)
  /-- The result code of the whole answer. -/
  | code (n : Int)

/-- The contents of a directory. -/
structure Directory where
  /-- The entries, by name. -/
  entries : List (String × Attributes) := []
  /-- The passwords that binds are checked against, by name. -/
  passwords : List (String × String) := []
  /-- The answers to searches, by filter. -/
  answers : List (String × List Answer) := []
  /-- Entries that only the entry itself may read. -/
  guarded : List String := []
  /-- Names that the directory finds malformed. -/
  malformed : List String := []
  /-- Entries that exist, but of which nothing is returned. -/
  ghosts : List String := []
  /-- Hosts, with or without a port, that refuse connections. -/
  down : List String := []
  /-- Anonymous binds are refused. -/
  denyAnonymous : Bool := false
  /-- Negotiated binds are refused. -/
  denySasl : Bool := false
  /-- The protocol version of encrypted connections, as the socket reports it. -/
  tlsVersion : Option String := none
  /-- Prepared results, by filter. -/
  prepared : List (String × List SearchResult) := []
  /-- Prepared reads, by name. -/
  preparedReads : List (String × Attributes) := []
  /-- An answer that every search gets, whatever the directory holds. -/
  fixedResponse : Option Response := none
deriving Inhabited

namespace Directory

/-! ## §3 Answers -/

/-- The attributes that a search asked for. -/
def select (wanted : Wanted) (attributes : Attributes) : Attributes :=
  match wanted with
  | .unspecified => []
  | .all => attributes
  | .named names => attributes.filter fun a => names.any (Text.sameIgnoringCase · a.1)

/-- An item with only the attributes that were asked for. -/
def selectItem (wanted : Wanted) : ResponseItem → ResponseItem
  | .entry dn attributes => .entry dn (attributes.map (select wanted))
  | item => item

def itemOf? (d : Directory) (wanted : Wanted) : Answer → Option ResponseItem
  | .known dn => some (selectItem wanted (.entry dn (some ((d.entries.lookup dn).getD []))))
  | .item i => some (selectItem wanted i)
  | .code _ => none

/-- The result code of one answer, if it sets one. -/
def codeOf? : Answer → Option Int
  | .code n => some n
  | _ => none

/-- The answer to a search below an entry. -/
def answer (d : Directory) (filter : String) (wanted : Wanted) : Response :=
  let answers := (d.answers.lookup filter).getD []
  ⟨answers.filterMap (d.itemOf? wanted), (answers.filterMap codeOf?).getLast?.getD 0⟩

/-- What the root of every directory says about itself. -/
def rootAttributes : Attributes :=
  [("namingContexts", .list [.text "dc=example,dc=com"])]

/-- The answer to a read of one entry by the given user. -/
def read (d : Directory) (user : Value) (dn : String) (wanted : Wanted) : Except ClientError Response :=
  if dn == "" then .ok { items := [.entry "" (some (select wanted rootAttributes))] }
  else if d.malformed.contains dn then .error ⟨"LDAPInvalidDNSyntaxResult", "invalid " ++ dn⟩
  else if d.guarded.contains dn && !user.same (.text dn) then
    .error ⟨"LDAPInsufficientAccessRightsResult", "protected " ++ dn⟩
  else if d.ghosts.contains dn then .ok {}
  else
    match d.entries.lookup dn with
    | some attributes => .ok { items := [.entry dn (some (select wanted attributes))] }
    | none => .error ⟨"LDAPNoSuchObjectResult", "missing " ++ dn⟩

/-- The answer to a search request by the given user. -/
def search (d : Directory) (user : Value) (request : SearchRequest) : Except ClientError Response :=
  match d.fixedResponse with
  | some response => .ok response
  | none =>
    match request.scope with
    | .base => d.read user request.base request.wanted
    | .level | .subtree => .ok (d.answer request.filter request.wanted)

/-- The host refuses connections at this port. -/
def refuses (d : Directory) (host : String) (port : Nat) : Bool :=
  d.down.contains host || d.down.contains (host ++ ":" ++ toString port)

/-! ## §4 Binds -/

/-- The password of a name. -/
def passwordOf? (d : Directory) : Value → Option String
  | .text name => d.passwords.lookup name
  | _ => none

/-- A name and a password are accepted together. -/
def checkPassword (d : Directory) (user password : Value) : Except ClientError Unit :=
  if !password.isGiven then .error ⟨"LDAPPasswordIsMandatoryError", "password is mandatory"⟩
  else if (d.passwordOf? user).any fun stored => password.same (.text stored) then .ok ()
  else .error ⟨"LDAPInvalidCredentialsResult", "bad credentials for " ++ user.toText⟩

/-! ## §5 Extent -/

/-- How many results the directory can return in all. -/
def extent (d : Directory) : Nat :=
  (d.answers.flatMap (·.2)).length + (d.prepared.flatMap (·.2)).length
    + (d.fixedResponse.map (·.items.length)).getD 0

end Directory

end DirectoryLogin

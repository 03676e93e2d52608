import DirectoryLogin.Directory.Basic
import DirectoryLogin.Failure
import DirectoryLogin.Text.Percent
/-!
# Search Results

The answer to a search, as results that are handed out one after the other. Entries at or below the base get a
name relative to it, all others the URL of their name. References to other servers end the results.

Names are compared ignoring case, so the case of the base in an entry's name is lost in a relative name.
-/

namespace DirectoryLogin

/-- Join fragments of a name, the most specific one first, leaving out empty ones. -/
def joinNames (names : List String) : String :=
  ",".intercalate (names.filter (· != ""))

/-- Results of a search: those that can be handed out, and the failure after the last of them. -/
structure Results where
  /-- The results, in order. -/
  items : List SearchResult
  /-- The failure that follows, if there is one. -/
  ending : Option Failure

namespace Results

/-- A character that the URL of a name keeps as it is. -/
def isSafe (c : Char) : Bool :=
  c == '=' || c == ',' || c == '+' || c == ' '

def urlOfName (dn : String) : String :=
  "ldap:///" ++ Text.percentEncode isSafe dn

/-- A text without its last `n` characters. -/
def dropLast (s : String) (n : Nat) : String :=
  String.ofList (s.toList.take (s.toList.length - n))

/-- The name of an entry in the results of a search below `base`, and whether it is relative. -/
def nameBelow (base dn : String) : String × Bool :=
  let lowerBase := Text.lower base
  let lowerDn := Text.lower dn
  let ending := "," ++ lowerBase
  if base == "" then (dn, true)
  else if lowerDn == lowerBase then ("", true)
  else if ending.toList.isSuffixOf lowerDn.toList then (dropLast dn ending.toList.length, true)
  else (urlOfName dn, false)

def ofEntry (base dn : String) (attributes : Option Attributes) : SearchResult :=
  let (name, isRelative) := nameBelow base dn
  ⟨name, isRelative, some (Attributes.decode attributes)⟩

/-- One more result in front. -/
def cons (r : SearchResult) (rest : Results) : Results :=
  ⟨r :: rest.items, rest.ending⟩

/-- The results of a search below `base`. `isReferred` says that the whole search ended with a referral, and
`asReferral` how incomplete results are reported. -/
def ofItems (base : String) (isReferred asReferral : Bool) : List ResponseItem → Results
  | [] => ⟨[], if isReferred then some (.directory (.referralAtEnd asReferral)) else none⟩
  | .reference uris :: _ => ⟨[], some (.directory (.continuation asReferral uris))⟩
  | .entry dn attributes :: rest => (ofItems base isReferred asReferral rest).cons (ofEntry base dn attributes)
  | .other :: rest => ofItems base isReferred asReferral rest

/-- The results of an answer. -/
def ofResponse (base : String) (asReferral : Bool) (r : Response) : Results :=
  ofItems base (r.code == Response.referralCode) asReferral r.items

end Results

/-- The attributes of the first entry of an answer. -/
def Response.firstEntry? (r : Response) : Option (Option Attributes) :=
  r.items.findSome? fun
    | .entry _ attributes => some attributes
    | _ => none

end DirectoryLogin

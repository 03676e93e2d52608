import DirectoryLogin.Connection.Results
import DirectoryLogin.Name.Components
import DirectoryLogin.Name.Escape
import DirectoryLogin.Url.Split
/-!
# Names of Search Results

The full name of a search result. A relative name is joined with the base of the search and the connection's own
name. An absolute one is a URL whose path, without its first character, is the name; it has to be readable.
-/

namespace DirectoryLogin.Name

/-- The name in the path of a URL. -/
def ofUrl (text : String) : Except Failure String := do
  let unusable : Failure := .directory (.invalidName text)
  let url ← (Url.split text).mapError fun _ => unusable
  let path := Text.percentDecode (String.ofList url.path)
  if url.scheme == "" || path == "" then throw unusable
  let dn := String.ofList (path.toList.drop 1)
  let _ ← parse dn
  return dn

/-- The full name of a result of a search below `base`, on a connection whose own name is `namespaceName`. -/
def ofResult (namespaceName base : String) (result : SearchResult) (normalize : Bool) : Except Failure String := do
  let dn ← if result.isRelative then pure (joinNames [result.name, base, namespaceName]) else ofUrl result.name
  return if normalize then normalizeEscapes dn else dn

end DirectoryLogin.Name

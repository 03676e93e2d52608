import DirectoryLogin.Text.Case
import DirectoryLogin.Value
/-!
# Attributes

The attributes of an entry, in the order in which the directory sent them. The name of an attribute is matched
ignoring case, and the first match counts.
-/

namespace DirectoryLogin

/-- Attributes by name. -/
abbrev Attributes := List (String × Value)

namespace Attributes

/-- The attribute of a name. -/
def find? (attributes : Attributes) (name : String) : Option Value :=
  (List.find? (fun a => Text.sameIgnoringCase a.1 name) attributes).map (·.2)

/-- The texts of an attribute value. Absent values among several are passed over. -/
def textsOf : Value → List String
  | .null => []
  | .list items => (items.filter (·.isPresent)).map Value.attributeText
  | v => [v.attributeText]

/-- Every value of an attribute. -/
def values (name : Option String) (attributes : Option Attributes) : List String :=
  match name, attributes with
  | some name, some attributes =>
    match find? attributes name with
    | some v => textsOf v
    | none => []
  | _, _ => []

/-- The first value of an attribute. -/
def first? (name : Option String) (attributes : Option Attributes) : Option String :=
  (values name attributes).head?

/-- The texts of a raw attribute value: an absent value has a text too. -/
def decodedTexts : Value → List String
  | .list items => items.map Value.attributeText
  | v => [v.attributeText]

/-- Decode the raw attributes of an entry. -/
def decode (raw : Option Attributes) : Attributes :=
  (raw.getD []).map fun a => (a.1, .list ((decodedTexts a.2).map .text))

end Attributes

end DirectoryLogin

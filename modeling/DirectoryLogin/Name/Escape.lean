/-!
# Escaping in Distinguished Names

Two operations on attribute values inside distinguished names (RFC 4514).

- `escapeValue` makes a value safe to place into a name: special characters become a backslash and two upper
  case hexadecimal digits. A space is special at either end only, a number sign at the beginning only.
- `normalizeEscapes` gives a backslash before a special character the form with two digits, so that
  names from different servers compare equal.
-/

namespace DirectoryLogin.Name

/-! ## §1 Escaping a value -/

/-- A character that is escaped wherever it stands in a value, or stays as it is. -/
def escapeChar (c : Char) : List Char :=
  if c == '"' then ['\\', '2', '2']
  else if c == '+' then ['\\', '2', 'B']
  else if c == ',' then ['\\', '2', 'C']
  else if c == ';' then ['\\', '3', 'B']
  else if c == '<' then ['\\', '3', 'C']
  else if c == '>' then ['\\', '3', 'E']
  else if c == '\\' then ['\\', '5', 'C']
  else if c == '\x00' then ['\\', '0', '0']
  else [c]

/-- A space at either end of a value. -/
def escapedSpace : List Char := ['\\', '2', '0']

/-- The first character of a value. -/
def escapeFirst (c : Char) : List Char :=
  if c == ' ' then escapedSpace else if c == '#' then ['\\', '2', '3'] else escapeChar c

/-- The characters of a value after the first one. -/
def escapeRest : List Char → List Char
  | [] => []
  | [c] => if c == ' ' then escapedSpace else escapeChar c
  | c :: d :: rest => escapeChar c ++ escapeRest (d :: rest)

/-- The characters of an escaped value. -/
def escapeChars : List Char → List Char
  | [] => []
  | c :: rest => escapeFirst c ++ escapeRest rest

/-- A value, escaped for use in a distinguished name. -/
def escapeValue (value : String) : String :=
  String.ofList (escapeChars value.toList)

/-- The characters of an escaped value. -/
@[simp] theorem toList_escapeValue (value : String) :
    (escapeValue value).toList = escapeChars value.toList := by
  simp [escapeValue]

/-! ## §2 One form for all escapes -/

/-- A character that stood after a backslash, with that backslash. -/
def hexEscape (c : Char) : List Char :=
  if c == ' ' then ['\\', '2', '0']
  else if c == '"' then ['\\', '2', '2']
  else if c == '#' then ['\\', '2', '3']
  else if c == '+' then ['\\', '2', 'B']
  else if c == ',' then ['\\', '2', 'C']
  else if c == ';' then ['\\', '3', 'B']
  else if c == '<' then ['\\', '3', 'C']
  else if c == '=' then ['\\', '3', 'D']
  else if c == '>' then ['\\', '3', 'E']
  else if c == '\\' then ['\\', '5', 'C']
  else ['\\', c]

/-- The normal form of the escapes of a name; a backslash at the very end stays. -/
def normalizeChars : List Char → List Char
  | [] => []
  | ['\\'] => ['\\']
  | '\\' :: c :: rest => hexEscape c ++ normalizeChars rest
  | c :: rest => c :: normalizeChars rest

/-- A name with all its escapes in the form of two hexadecimal digits. -/
def normalizeEscapes (name : String) : String :=
  String.ofList (normalizeChars name.toList)

/-- The characters of a name with normal escapes. -/
@[simp] theorem toList_normalizeEscapes (name : String) :
    (normalizeEscapes name).toList = normalizeChars name.toList := by
  simp [normalizeEscapes]

end DirectoryLogin.Name

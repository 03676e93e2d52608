/-!
# Escaping in Search Filters

A value that is placed into a search filter must not be read as filter syntax: parentheses, asterisks,
backslashes and NUL are written as a backslash and two lower case hexadecimal digits (RFC 4515).
-/

namespace DirectoryLogin.Filter

/-- One character of an escaped value. -/
def escapeChar (c : Char) : List Char :=
  if c == '\\' then ['\\', '5', 'c']
  else if c == '*' then ['\\', '2', 'a']
  else if c == '(' then ['\\', '2', '8']
  else if c == ')' then ['\\', '2', '9']
  else if c == '\x00' then ['\\', '0', '0']
  else [c]

/-- A value, escaped for use in a filter. -/
def escape (value : String) : String :=
  String.ofList (value.toList.flatMap escapeChar)

/-- The characters of an escaped value are those of its characters, one after the other. -/
@[simp] theorem toList_escape (value : String) :
    (escape value).toList = value.toList.flatMap escapeChar := by
  simp [escape]

end DirectoryLogin.Filter

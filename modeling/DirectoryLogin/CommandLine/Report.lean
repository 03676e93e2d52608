import DirectoryLogin.Text.Digit
/-!
# Reports

The report on a login attempt is a JSON object in ASCII: characters beyond ASCII are written as escapes of four
hexadecimal digits, those beyond U+FFFF as the two halves of a surrogate pair. The report on a success is spread
over several lines, the one on a rejection is a single line.
-/

namespace DirectoryLogin.CommandLine

/-! ## §1 Texts -/

/-- The escape of a number of 16 bits. -/
def unitEscape (n : Nat) : List Char :=
  '\\' :: 'u' :: Text.hexDigits 4 n

/-- One character of a text. -/
def jsonChar (c : Char) : List Char :=
  if c == '"' then ['\\', '"']
  else if c == '\\' then ['\\', '\\']
  else if c == '\n' then ['\\', 'n']
  else if c == '\r' then ['\\', 'r']
  else if c == '\t' then ['\\', 't']
  else if c == '\x08' then ['\\', 'b']
  else if c == '\x0c' then ['\\', 'f']
  else if 0x20 ≤ c.toNat && c.toNat < 0x7F then [c]
  else if c.toNat < 0x10000 then unitEscape c.toNat
  else
    let above := c.toNat - 0x10000
    unitEscape (0xD800 + above / 0x400) ++ unitEscape (0xDC00 + above % 0x400)

/-- A text between double quotes. -/
def jsonText (s : String) : String :=
  String.ofList ('"' :: s.toList.flatMap jsonChar ++ ['"'])

/-! ## §2 Reports -/

/-- What is reported about a login attempt. -/
structure Report where
  /-- The name of the user. -/
  username : String
  /-- The roles; absent if the user was not authenticated. -/
  roles : Option (List String)
deriving DecidableEq, Repr

/-- A list of roles, one on a line. -/
def rolesText : List String → String
  | [] => "[]"
  | roles => "[\n" ++ ",\n".intercalate (roles.map fun role => "    " ++ jsonText role) ++ "\n  ]"

def Report.text (r : Report) : String :=
  match r.roles with
  | none => "\x7b\"username\": " ++ jsonText r.username ++ ", \"authenticated\": false\x7d\n"
  | some roles =>
    "\x7b\n  \"username\": " ++ jsonText r.username ++ ",\n  \"authenticated\": true,\n  \"roles\": "
      ++ rolesText roles ++ "\n\x7d\n"

end DirectoryLogin.CommandLine

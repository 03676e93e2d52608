import DirectoryLogin.Text.CodePoint
import DirectoryLogin.Text.Digit
import DirectoryLogin.Text.PrintableTable
/-!
# Quoted Text

A text between quotes, as it is shown in messages. Apostrophes surround it unless it holds an apostrophe and
no double quote; the surrounding mark, backslashes and everything unprintable are written as escapes.
-/

namespace DirectoryLogin.Text

/-- A character that is shown as itself. -/
def isPrintable (c : Char) : Bool :=
  if c.toNat < 128 then 0x20 ≤ c.toNat && c.toNat < 0x7F else !inRanges unprintableRanges c

/-- One character between the given marks. -/
def quoteChar (mark c : Char) : List Char :=
  if c == mark || c == '\\' then ['\\', c]
  else if c == '\n' then ['\\', 'n']
  else if c == '\r' then ['\\', 'r']
  else if c == '\t' then ['\\', 't']
  else if isPrintable c then [c]
  else if c.toNat ≤ 0xFF then '\\' :: 'x' :: hexDigits 2 c.toNat
  else if c.toNat ≤ 0xFFFF then '\\' :: 'u' :: hexDigits 4 c.toNat
  else '\\' :: 'U' :: hexDigits 8 c.toNat

/-- The mark that surrounds a text. -/
def quoteMark (cs : List Char) : Char :=
  if cs.contains '\'' && !cs.contains '"' then '"' else '\''

/-- A text between quotes. -/
def quoted (s : String) : String :=
  let mark := quoteMark s.toList
  String.ofList (mark :: s.toList.flatMap (quoteChar mark) ++ [mark])

/-- A list of texts between brackets, each one quoted. -/
def quotedList (texts : List String) : String :=
  "[" ++ ", ".intercalate (texts.map quoted) ++ "]"

/-- A quoted text, or the word for an absent one. -/
def quotedOrNone : Option String → String
  | some s => quoted s
  | none => "None"

end DirectoryLogin.Text

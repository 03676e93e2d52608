import DirectoryLogin.Text.Digit
import DirectoryLogin.Text.Utf8
/-!
# Percent Coding

Bytes of a text that may not stand in a URL are written as a percent sign and two hexadecimal digits. A percent
sign without two such digits stands for itself when it is read.
-/

namespace DirectoryLogin.Text

/-- A byte that every part of a URL may hold as it is: ASCII letters, digits and `-._~`. -/
def isUnreserved (c : Char) : Bool :=
  c.isAlphanum || c == '-' || c == '.' || c == '_' || c == '~'

/-- One byte of the coded text. -/
def percentByte (safe : Char → Bool) (b : UInt8) : List Char :=
  let c := Char.ofNat b.toNat
  if b.toNat < 128 && (isUnreserved c || safe c) then [c]
  else ['%', upperHex (b.toNat / 16), upperHex (b.toNat % 16)]

/-- Code a text, leaving the unreserved and the `safe` characters as they are. -/
def percentEncode (safe : Char → Bool) (s : String) : String :=
  String.ofList ((utf8 s).flatMap (percentByte safe))

/-- The bytes that a coded text stands for. -/
def percentBytes : List Char → List UInt8
  | [] => []
  | '%' :: a :: b :: rest =>
    match hexDigit? a, hexDigit? b with
    | some x, some y => UInt8.ofNat (16 * x + y) :: percentBytes rest
    | _, _ => utf8Char '%' ++ percentBytes (a :: b :: rest)
  | c :: rest => utf8Char c ++ percentBytes rest

/-- Read a coded text. -/
def percentDecode (s : String) : String :=
  decodeUtf8 (percentBytes s.toList)

end DirectoryLogin.Text

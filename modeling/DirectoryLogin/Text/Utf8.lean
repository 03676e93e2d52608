import DirectoryLogin.Text.CodePoint
/-!
# UTF-8

Text as bytes and back. Decoding never fails: each maximal ill-formed part becomes one replacement character.

The decoder reads one byte at a time. Between bytes it knows how many continuation bytes are still missing and
in which range the next one must lie; the ranges after `E0`, `ED`, `F0` and `F4` keep out overlong forms,
surrogates and numbers beyond the last code point.
-/

namespace DirectoryLogin.Text

/-- The bytes of a character. -/
def utf8Char (c : Char) : List UInt8 :=
  let n := c.toNat
  if n < 0x80 then [UInt8.ofNat n]
  else if n < 0x800 then [UInt8.ofNat (0xC0 + n / 0x40), UInt8.ofNat (0x80 + n % 0x40)]
  else if n < 0x10000 then
    [UInt8.ofNat (0xE0 + n / 0x1000), UInt8.ofNat (0x80 + n / 0x40 % 0x40), UInt8.ofNat (0x80 + n % 0x40)]
  else
    [UInt8.ofNat (0xF0 + n / 0x40000), UInt8.ofNat (0x80 + n / 0x1000 % 0x40),
      UInt8.ofNat (0x80 + n / 0x40 % 0x40), UInt8.ofNat (0x80 + n % 0x40)]

/-- The bytes of a list of characters. -/
def utf8Chars (cs : List Char) : List UInt8 :=
  cs.flatMap utf8Char

/-- The bytes of a text. -/
def utf8 (s : String) : List UInt8 :=
  utf8Chars s.toList

/-- A character of which some bytes have been read. -/
structure PartialChar where
  /-- The bits read so far. -/
  bits : Nat
  /-- How many bytes are missing after the next one. -/
  missing : Nat
  /-- The least value of the next byte. -/
  low : Nat
  /-- The greatest value of the next byte. -/
  high : Nat

/-- What a byte begins: a whole character, a longer one, or nothing. -/
def beginChar (b : Nat) : List Char × Option PartialChar :=
  if b < 0x80 then ([charOfNat b], none)
  else if b < 0xC2 then (['\uFFFD'], none)
  else if b < 0xE0 then ([], some ⟨b - 0xC0, 0, 0x80, 0xBF⟩)
  else if b == 0xE0 then ([], some ⟨0, 1, 0xA0, 0xBF⟩)
  else if b == 0xED then ([], some ⟨0xD, 1, 0x80, 0x9F⟩)
  else if b < 0xF0 then ([], some ⟨b - 0xE0, 1, 0x80, 0xBF⟩)
  else if b == 0xF0 then ([], some ⟨0, 2, 0x90, 0xBF⟩)
  else if b < 0xF4 then ([], some ⟨b - 0xF0, 2, 0x80, 0xBF⟩)
  else if b == 0xF4 then ([], some ⟨4, 2, 0x80, 0x8F⟩)
  else (['\uFFFD'], none)

/-- Read one byte: the characters it completes, and what is left open after it. -/
def decodeByte (open? : Option PartialChar) (b : Nat) : List Char × Option PartialChar :=
  match open? with
  | none => beginChar b
  | some p =>
    if p.low ≤ b ∧ b ≤ p.high then
      let bits := p.bits * 0x40 + (b - 0x80)
      match p.missing with
      | 0 => ([charOfNat bits], none)
      | missing + 1 => ([], some ⟨bits, missing, 0x80, 0xBF⟩)
    else
      let (cs, next) := beginChar b
      ('\uFFFD' :: cs, next)

/-- Decode bytes, given what the bytes before them left open. -/
def decodeFrom (open? : Option PartialChar) : List UInt8 → List Char
  | [] => if open?.isSome then ['\uFFFD'] else []
  | b :: rest =>
    let (cs, next) := decodeByte open? b.toNat
    cs ++ decodeFrom next rest

/-- The characters of a list of bytes. -/
def decodeChars (bytes : List UInt8) : List Char :=
  decodeFrom none bytes

/-- The text of a list of bytes. -/
def decodeUtf8 (bytes : List UInt8) : String :=
  String.ofList (decodeChars bytes)

end DirectoryLogin.Text

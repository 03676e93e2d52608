import DirectoryLogin.Failure
import DirectoryLogin.Value
/-!
# Passwords

A password is presented as it came from outside, well formed or not. It is compared with a stored one by its bytes,
and only a well-formed text has any.
-/

namespace DirectoryLogin

/-- A password. -/
inductive Password where
  /-- A well-formed text. -/
  | text (s : String)
  /-- A text that is not well formed. -/
  | broken (b : Text.Broken)
deriving DecidableEq, Repr

instance : Coe String Password where
  coe := .text

namespace Password

/-- A password as a loosely typed value. -/
def value : Password → Value
  | .text s => .text s
  | .broken b => .broken b

/-- Every password is given but the empty text. -/
theorem isGiven_value_iff {p : Password} : p.value.isGiven = true ↔ p ≠ "" := by
  cases p with
  | text s => simp [value, Value.isGiven]
  | broken b => simp [value, Value.isGiven]

/-- The characters and halves of a password. -/
def points : Password → List (Char ⊕ Text.Half)
  | .text s => s.toList.map .inl
  | .broken b => b.points

/-- Why a password has no bytes, if it has none. -/
def flaw? : Password → Option String
  | .text _ => none
  | .broken b => some b.fault

/-- The failure to turn a password into bytes. -/
def unencodable (flaw : String) : Failure :=
  .defect (.other "UnicodeEncodeError") flaw

/-- The bytes of a password. -/
def encode : Password → Except Failure (List UInt8)
  | .text s => .ok (Text.utf8 s)
  | .broken b => .error (unencodable b.fault)

end Password

/-- A password that may be absent, as a loosely typed value. -/
def Value.ofPassword : Option Password → Value
  | some p => p.value
  | none => .null

end DirectoryLogin

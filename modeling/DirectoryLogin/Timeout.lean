import DirectoryLogin.Failure
import DirectoryLogin.Number.Literal
import DirectoryLogin.Value
/-!
# Timeouts

Limits on time are given in milliseconds and handed on in seconds. A limit that is not positive is no limit.
-/

namespace DirectoryLogin.Timeout

/-- Why a spelled-out value is no whole number. A value that is no numeral is shown, as far as there is room for it. -/
def numeralFailure (v : Value) : Number.Fault → Failure
  | .malformed =>
    .defect .badValue ("invalid literal for int() with base 10: " ++ String.ofList (v.nestedText.toList.take 200))
  | .tooLong digits => .defect .badValue (Number.limitText digits)

/-- The characters of raw bytes as far as numerals are concerned: those beyond ASCII belong to none. -/
def asciiChars (data : List UInt8) : List Char :=
  data.map fun b => if b.toNat < 128 then Char.ofNat b.toNat else '?'

/-- The whole number that a value stands for; a fraction is cut off. -/
def wholeNumber : Value → Except Failure Int
  | .flag b => .ok (if b then 1 else 0)
  | .integer n => .ok n
  | .real x => .ok x.truncate
  | .text s => (Number.integer s.toList).mapError (numeralFailure (.text s))
  | .broken b => (Number.integer (b.points.map (Sum.elim id fun _ => '?'))).mapError (numeralFailure (.broken b))
  | .bytes data => (Number.integer (asciiChars data)).mapError (numeralFailure (.bytes data))
  | v =>
    .error (.defect .wrongKind
      ("int() argument must be a string, a bytes-like object or a real number, not '" ++ v.kindName ++ "'"))

/-- A number of milliseconds in seconds; absent if it is too large. -/
def seconds? (milliseconds : Nat) : Option Binary64 :=
  (Binary64.ofRatio? milliseconds 1).bind (·.divNat? 1000)

/-- The limit of a value, in milliseconds. -/
def ofValue : Value → Except Failure (Option Nat)
  | .null => .ok none
  | v => do
    let n ← wholeNumber v
    if n ≤ 0 then return none
    else if (seconds? n.toNat).isNone then
      throw (.defect .overflow "int too large to convert to float")
    else return some n.toNat

/-- A number of milliseconds in whole seconds, rounded up: a limit never becomes no limit. -/
def wholeSeconds (milliseconds : Int) : Int :=
  Int.fdiv (milliseconds + 999) 1000

end DirectoryLogin.Timeout

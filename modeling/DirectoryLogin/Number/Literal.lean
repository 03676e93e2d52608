import DirectoryLogin.Text.Blank
import DirectoryLogin.Text.Digit
/-!
# Whole Numbers in Text

Two written forms of whole numbers. Both allow white space around the number, one sign, leading zeros and single
underscores between digits.

- `integer` takes the decimal digits of every script.
- `settingInteger?` takes ASCII digits only, and a point followed by nothing but zeros.

No numeral of more than `digitLimit` digits is turned into a number.
-/

namespace DirectoryLogin.Number

/-! ## §1 The limit -/

/-- The most digits that a numeral may have. -/
def digitLimit : Nat := 4300

/-- Why a text is not read as a whole number. -/
inductive Fault where
  /-- The text is no numeral. -/
  | malformed
  /-- The numeral has too many digits. -/
  | tooLong (digits : Nat)
deriving DecidableEq, Repr

/-- The text about a numeral with too many digits. -/
def limitText (digits : Nat) : String :=
  "Exceeds the limit (" ++ toString digitLimit ++ " digits) for integer string conversion: value has " ++
    toString digits ++ " digits; use sys.set_int_max_str_digits() to increase the limit"

/-! ## §2 Grouped digits -/

/-- Digits with single underscores between them, after some digits worth `value`. -/
def groupedFrom (digit? : Char → Option Nat) (value : Nat) (afterDigit : Bool) : List Char → Option Nat
  | [] => if afterDigit then some value else none
  | c :: rest =>
    match digit? c with
    | some d => groupedFrom digit? (10 * value + d) true rest
    | none => if c == '_' && afterDigit then groupedFrom digit? value false rest else none

/-- Digits with single underscores between them. -/
def grouped? (digit? : Char → Option Nat) (cs : List Char) : Option Nat :=
  groupedFrom digit? 0 false cs

/-- Read a sign, and the rest with the given reader. -/
def signed {m : Type → Type} [Functor m] (read : List Char → m Nat) : List Char → m Int
  | '-' :: rest => (fun n : Nat => -(n : Int)) <$> read rest
  | '+' :: rest => (fun n : Nat => (n : Int)) <$> read rest
  | cs => (fun n : Nat => (n : Int)) <$> read cs

/-! ## §3 Two forms -/

/-- A row of grouped digits with nothing behind it. The digits are counted before what is behind them is looked at. -/
def row (digit? : Char → Option Nat) (cs : List Char) : Except Fault Nat :=
  let isOfRow := fun c => (digit? c).isSome || c == '_'
  match grouped? digit? (cs.takeWhile isOfRow) with
  | none => .error .malformed
  | some n =>
    let digits := (cs.takeWhile isOfRow).countP (· != '_')
    if digitLimit < digits then .error (.tooLong digits)
    else if (cs.dropWhile isOfRow).isEmpty then .ok n
    else .error .malformed

/-- A whole number in the decimal digits of any script. -/
def integer (cs : List Char) : Except Fault Int :=
  signed (row Text.decimalDigit?) (Text.trimList Text.isWhiteSpace cs)

/-- Digits, and possibly a point followed by nothing but zeros. -/
def wholeDecimal? (cs : List Char) : Option Nat :=
  match cs.dropWhile (· != '.') with
  | _ :: fraction =>
    if fraction.all (· == '0') then grouped? Text.asciiDigit? (cs.takeWhile (· != '.')) else none
  | [] => grouped? Text.asciiDigit? cs

/-- A whole number as a setting may spell it. -/
def settingInteger? (s : String) : Option Int :=
  signed wholeDecimal? (Text.trimList Text.isWhiteSpace s.toList)

end DirectoryLogin.Number

import DirectoryLogin.Failure
import DirectoryLogin.Number.Literal
import DirectoryLogin.Text.Digit
import DirectoryLogin.Text.Quoted
/-!
# Templates

A template is a text with numbered slots: a decimal number between braces. It is compiled once and filled many
times. All slots are filled at the same time, so a value that looks like a slot is never filled again.

A brace that is not part of a slot makes a template malformed, and so does a slot whose number has too many digits.
-/

namespace DirectoryLogin

/-- A part of a template. -/
inductive Template.Piece where
  /-- A character that stands for itself. -/
  | literal (c : Char)
  /-- The slot for the argument with this number. -/
  | slot (index : Nat)
deriving DecidableEq, Repr

/-- A compiled template. -/
structure Template where
  /-- The text that was compiled. -/
  pattern : String
  /-- Its parts, in order. -/
  pieces : List Template.Piece
deriving DecidableEq, Repr

namespace Template

/-! ## §1 Compiling -/

/-- The brace that begins a slot. -/
def openBrace : Char := '\x7b'

/-- The brace that ends a slot. -/
def closeBrace : Char := '\x7d'

/-- Why a text is no template. -/
inductive Fault where
  /-- A brace belongs to no slot. -/
  | strayBrace
  /-- The number of a slot has too many digits. -/
  | longNumber (digits : Nat)
deriving DecidableEq, Repr

/-- A text that is no template, as a failure. Only a stray brace counts as a fault of the configuration. -/
def Fault.toFailure (pattern : String) : Fault → Failure
  | .strayBrace => .configuration (.template pattern)
  | .longNumber digits => .defect .longSlot (Number.limitText digits)

/-- The number of a slot, how many digits it has, and what follows the slot; given the value and the number of the
digits read so far. -/
def slotTail? (value digits : Nat) : List Char → Option (Nat × Nat × List Char)
  | [] => none
  | c :: rest =>
    match Text.decimalDigit? c with
    | some d => slotTail? (10 * value + d) (digits + 1) rest
    | none => if c == closeBrace && digits != 0 then some (value, digits, rest) else none

/-- What follows a slot is shorter than the text from its first digit on. -/
theorem length_of_slotTail? {value digits : Nat} {cs rest : List Char} {n k : Nat}
    (h : slotTail? value digits cs = some (n, k, rest)) : rest.length < cs.length := by
  induction cs generalizing value digits with
  | nil => simp [slotTail?] at h
  | cons c cs ih =>
    rw [slotTail?] at h
    split at h
    · exact Nat.lt_succ_of_lt (ih h)
    · split at h
      · cases h; exact Nat.lt_succ_self _
      · cases h

/-- The parts of a text, or the first fault in it. -/
def readPieces : List Char → Except Fault (List Piece)
  | [] => .ok []
  | c :: rest =>
    if c == openBrace then
      match _h : slotTail? 0 0 rest with
      | some (n, digits, after) =>
        if digits ≤ Number.digitLimit then (readPieces after).map (.slot n :: ·)
        else .error (.longNumber digits)
      -- a brace that begins no slot is not a literal: it makes the whole text malformed
      | none => .error .strayBrace
    else if c == closeBrace then .error .strayBrace
    else (readPieces rest).map (.literal c :: ·)
termination_by cs => cs.length
decreasing_by
  · have := length_of_slotTail? _h
    simp only [List.length_cons]; omega
  · simp

/-- Compile a text. -/
def compile (pattern : String) : Except Failure Template :=
  match readPieces pattern.toList with
  | .ok pieces => .ok ⟨pattern, pieces⟩
  | .error fault => .error (fault.toFailure pattern)

/-- Compile a text that may be absent. -/
def compile? : Option String → Except Failure (Option Template)
  | some pattern => (compile pattern).map some
  | none => .ok none

/-! ## §2 Filling -/

/-- One more than the number of a slot. -/
def Piece.reach : Piece → Nat
  | .literal _ => 0
  | .slot n => n + 1

/-- How many arguments are needed to fill every slot. -/
def argumentCount (t : Template) : Nat :=
  (t.pieces.map Piece.reach).foldl max 0

/-- A slot as it is written. -/
def slotText (n : Nat) : List Char :=
  openBrace :: Nat.toDigits 10 n ++ [closeBrace]

/-- A part with the arguments put in. An absent argument is empty; a slot without an argument stays. -/
def Piece.fill (arguments : List (Option String)) : Piece → List Char
  | .literal c => [c]
  | .slot n =>
    match arguments[n]? with
    | some (some value) => value.toList
    | some none => []
    | none => slotText n

/-- Fill the slots of a template. -/
def fill (t : Template) (arguments : List (Option String)) : String :=
  String.ofList (t.pieces.flatMap (Piece.fill arguments))

/-- The characters of a filled template are those of its filled parts. -/
@[simp] theorem toList_fill (t : Template) (arguments : List (Option String)) :
    (t.fill arguments).toList = t.pieces.flatMap (Piece.fill arguments) := by
  simp [fill]

/-- How a template is shown. -/
def describe (t : Template) : String :=
  "MessageTemplate(" ++ Text.quoted t.pattern ++ ")"

end Template

end DirectoryLogin

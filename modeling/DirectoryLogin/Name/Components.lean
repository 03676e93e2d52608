import DirectoryLogin.Failure
import DirectoryLogin.Text.Blank
import DirectoryLogin.Text.Digit
/-!
# Components of a Distinguished Name

A distinguished name is a sequence of components, the most significant one last. A component is one assignment
`type=value`, or several joined by plus signs.

A name is read in three steps: it is cut at commas and plus signs that are not escaped, pieces without an
assignment are glued to the one before, and every assignment is checked. The value of an assignment is kept as
it is written, escapes included.
-/

namespace DirectoryLogin.Name

/-! ## §1 Marks -/

/-- A mark counts as syntax after these characters, nearest first: it is not the first of the text, and no
backslash escapes it. The very first character of the text never counts as part of a run of backslashes. -/
def isUnescaped : List Char → Bool
  | [] => false
  -- one character before: it is the first of the text, and only asked whether it is a backslash
  | [c] => c != '\\'
  | before => (before.dropLast.takeWhile (· == '\\')).length % 2 == 0

/-- The positions of a mark in a text, given the characters before it, nearest first. -/
def marksFrom (mark : Char) (before : List Char) : List Char → List Nat
  | [] => []
  | c :: rest =>
    let later := marksFrom mark (c :: before) rest
    if c == mark && isUnescaped before then before.length :: later else later

/-- The positions at which a mark counts as syntax. -/
def marks (mark : Char) (cs : List Char) : List Nat :=
  marksFrom mark [] cs

/-! ## §2 Pieces -/

/-- A piece of a name, and the separator that ended it. -/
structure Piece where
  /-- The characters of the piece. -/
  chars : List Char
  /-- The separator after it; the last piece may have none. -/
  separator : Option Char
deriving DecidableEq, Repr

/-- Where the first piece ends, given the positions of a separator and of the equals signs: at the last separator
before the next assignment. Where an assignment follows at once, or none follows at all, there is no cut. -/
def cut? (separators equals : List Nat) : Option Nat :=
  match separators with
  | [] => none
  | start :: _ =>
    match equals.find? (start < ·) with
    -- an assignment right after the separator has an empty type, so nothing is cut off in front of it
    | some equal => if start + 1 < equal then (separators.filter (· < equal)).getLast? else none
    | none => none

/-- The first plus sign comes before every comma. -/
def plusComesFirst (pluses commas : List Nat) : Bool :=
  match pluses.head?, commas.head? with
  | some plus, some comma => plus < comma
  | some _, none => true
  | none, _ => false

/-- Where the first piece of a text ends, and with which separator. -/
def firstCut? (cs : List Char) : Option (Nat × Char) :=
  let commas := marks ',' cs
  let pluses := marks '+' cs
  let equals := marks '=' cs
  let atPlus := if plusComesFirst pluses commas then (cut? pluses equals).map (·, '+') else none
  atPlus.or ((cut? commas equals).map (·, ','))

/-- Cut a text into pieces. -/
def pieces (cs : List Char) : List Piece :=
  if _nonempty : cs = [] then []
  else
    match firstCut? cs with
    -- the separator itself belongs to neither side
    | some (n, separator) => ⟨cs.take n, some separator⟩ :: pieces (cs.drop (n + 1))
    | none => [⟨cs, none⟩]
termination_by cs.length
decreasing_by
  have : cs.length ≠ 0 := fun h => _nonempty (List.length_eq_zero_iff.1 h)
  simp only [List.length_drop]; omega

/-- The piece holds an assignment. -/
def Piece.hasAssignment (p : Piece) : Bool :=
  !(marks '=' p.chars).isEmpty

/-- A piece with the next one glued to it. -/
def Piece.join (p q : Piece) : Piece :=
  ⟨p.chars ++ p.separator.toList ++ q.chars, q.separator⟩

/-- Glue pieces without an assignment to the piece before. -/
def glueTo (current : Piece) : List Piece → List Piece
  | [] => [current]
  | next :: rest =>
    if next.hasAssignment then current :: glueTo next rest else glueTo (current.join next) rest

/-- The assignments of a list of pieces. -/
def glue : List Piece → List Piece
  | [] => []
  | first :: rest => glueTo first rest

/-! ## §3 Assignments -/

/-- Split at the first equals sign that is neither the first character nor after a backslash. -/
def splitAssignment? (previous : Option Char) : List Char → Option (List Char × List Char)
  | [] => none
  | c :: rest =>
    if c == '=' && previous.any (· != '\\') then some ([], rest)
    else (splitAssignment? (some c) rest).map fun (kind, value) => (c :: kind, value)

/-- The type of an assignment: a letter, then letters, digits and hyphens; or the name of an identifier. -/
def isAttributeType (kind : List Char) : Bool :=
  kind == ['<', 'G', 'U', 'I', 'D'] ||
    (match kind with
      | c :: _ => c.isAlpha && kind.all fun d => d.isAlphanum || d == '-'
      | [] => false)

/-- Where a reader of a value stands. -/
inductive ValueState where
  /-- Outside any escape. -/
  | plain
  /-- After a backslash. -/
  | escape
  /-- After a backslash and one hexadecimal digit. -/
  | pair
deriving DecidableEq, Repr

/-- A character that may stand in a value only after a backslash. -/
def needsEscape (c : Char) : Bool :=
  ['"', '#', '+', ',', ';', '<', '=', '>', '\x00'].contains c

/-- A character that a backslash in front of it makes literal. -/
def isEscapable (c : Char) : Bool :=
  c == ' ' || c == '\\' || needsEscape c

/-- Every escape of a value is complete, and nothing that needs one goes without. -/
def isValueFrom : ValueState → List Char → Bool
  | state, [] => state == .plain
  | .plain, c :: rest =>
    if c == '\\' then isValueFrom .escape rest else !needsEscape c && isValueFrom .plain rest
  | .escape, c :: rest =>
    -- a hexadecimal digit begins a pair, even where the character could be escaped by itself
    if (Text.hexDigit? c).isSome then isValueFrom .pair rest else isEscapable c && isValueFrom .plain rest
  | .pair, c :: rest => (Text.hexDigit? c).isSome && isValueFrom .plain rest

/-- The value of an assignment. -/
def isValue (value : List Char) : Bool :=
  !value.isEmpty && isValueFrom .plain value

/-- An assignment without the blanks around its type and its value. -/
def assignment? (cs : List Char) : Option (List Char) := do
  let (kind, value) ← splitAssignment? none cs
  let kind := Text.trimList Text.isBlank kind
  let value := Text.trimList Text.isBlank value
  if isAttributeType kind && isValue value then some (kind ++ '=' :: value) else none

/-! ## §4 Components -/

/-- Put assignments that were separated by plus signs into one component. -/
def components (pending : List Char) : List (List Char × Option Char) → List (List Char)
  | [] => if pending.isEmpty then [] else [pending]
  | (a, separator) :: rest =>
    let whole := if pending.isEmpty then a else pending ++ '+' :: a
    if separator == some '+' then components whole rest else whole :: components [] rest

/-- The components of a name in the order in which they are written; absent if it cannot be read. -/
def written? (cs : List Char) : Option (List (List Char)) := do
  let assignments ← (glue (pieces cs)).mapM fun p => (assignment? p.chars).map (·, p.separator)
  if assignments.isEmpty then none else some (components [] assignments)

/-- The components of a name, the most significant one first. A blank name has none. -/
def parse (dn : String) : Except Failure (List String) :=
  if dn.toList.all Text.isBlank then .ok []
  else
    match written? dn.toList with
    | some parts => .ok (parts.reverse.map String.ofList)
    | none => .error (.directory (.invalidDn dn))

end DirectoryLogin.Name

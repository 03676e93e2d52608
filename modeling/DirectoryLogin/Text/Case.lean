import DirectoryLogin.Text.CodePoint
import DirectoryLogin.Text.CaseTable
import DirectoryLogin.Text.CaseContext
/-!
# Upper and Lower Case

The full case mappings of text: a character may become several, and a sigma takes its final form at the end
of a word. Names are compared ignoring case by comparing their lower case forms.
-/

namespace DirectoryLogin.Text

/-! ## §1 Single characters -/

/-- Look a code point up in a list of runs. -/
def CaseRun.apply? (runs : List CaseRun) (n : Nat) : Option Nat :=
  (runs.find? (·.holds n)).map fun r => ((n : Int) + r.shift).toNat

/-- The lower case form of a character, apart from its neighbours. -/
def lowerChar (c : Char) : List Char :=
  let n := c.toNat
  if n < 128 then [c.toLower]
  else if n == 0x130 then ['i', '\u0307']
  else match CaseRun.apply? lowerRuns n with
    | some m => [charOfNat m]
    | none => [c]

/-- The upper case form of a character. -/
def upperChar (c : Char) : List Char :=
  let n := c.toNat
  if n < 128 then [c.toUpper]
  else match upperExpansions.lookup n with
    | some ms => ms.map charOfNat
    | none => match CaseRun.apply? upperRuns n with
      | some m => [charOfNat m]
      | none => [c]

/-! ## §2 The final sigma -/

/-- A character that has a case. -/
def isCased (c : Char) : Bool :=
  if c.toNat < 128 then c.isAlpha else inRanges casedRanges c

/-- A character that is passed over when the neighbour of a letter is looked for. -/
def isCaseIgnorable (c : Char) : Bool :=
  if c.toNat < 128 then c == '\'' || c == '.' || c == ':' || c == '^' || c == '`'
  else inRanges caseIgnorableRanges c

/-- The nearest character that is not passed over has a case. -/
def nextIsCased (cs : List Char) : Bool :=
  match cs.dropWhile isCaseIgnorable with
  | c :: _ => isCased c
  | [] => false

/-! ## §3 Texts -/

/-- Lower case of a list of characters, given the characters before it, nearest first. -/
def lowerAfter (before : List Char) : List Char → List Char
  | [] => []
  | c :: rest =>
    let here :=
      if c == 'Σ' then (if nextIsCased before && !nextIsCased rest then ['ς'] else ['σ'])
      else lowerChar c
    here ++ lowerAfter (c :: before) rest

/-- The lower case form of a text. -/
def lower (s : String) : String :=
  String.ofList (lowerAfter [] s.toList)

/-- The upper case form of a text. -/
def upper (s : String) : String :=
  String.ofList (s.toList.flatMap upperChar)

/-- Two texts are the same apart from case. -/
def sameIgnoringCase (s t : String) : Bool :=
  lower s == lower t

end DirectoryLogin.Text

import DirectoryLogin.Text.Digit
/-!
# Arguments of the Command Line

The command line takes the name of a user, and may ask for help or for the password to be read from standard
input. Options may stand anywhere; a long one may be shortened as long as it stays unique, and `--` ends the
options.

Arguments are first read one by one, each as a word. Then the words are gone through from left to right: a
request for help, or a value where an option takes none, ends the reading there and then; whatever is too much or
missing only shows at the end.
-/

namespace DirectoryLogin.CommandLine

/-! ## §1 Words -/

/-- What an option asks for. -/
inductive Choice where
  /-- A description of the options. -/
  | help
  /-- The password is the first line of standard input. -/
  | passwordFromInput
deriving DecidableEq, Repr

/-- One argument, read by itself. -/
inductive Word where
  /-- It is no option. -/
  | operand (text : String)
  /-- It is an option. -/
  | choice (c : Choice)
  /-- It is an option with a value that it does not take. -/
  | misused
  /-- It looks like an option, but there is no such option. -/
  | unknown
  /-- It is the beginning of several options. -/
  | ambiguous
  | endOfOptions
deriving DecidableEq, Repr

/-- The spelling of the short option. -/
def shortHelp : List Char := ['-', 'h']

def longOptions : List (List Char × Choice) := [
  ("--help".toList, .help),
  ("--password-stdin".toList, .passwordFromInput)]

/-- Digits, or digits after a point that may have digits before it. One line break may follow. -/
def isUnsignedNumber (cs : List Char) : Bool :=
  let isDigit c := (Text.decimalDigit? c).isSome
  -- a single line break at the very end does not count
  let cs := if cs.getLast? == some '\n' then cs.dropLast else cs
  match cs.dropWhile isDigit with
  | [] => !cs.isEmpty
  | c :: fraction => c == '.' && !fraction.isEmpty && fraction.all isDigit

/-- A dash and what follows it, if it is no option. Negative numbers, and everything with a space, are operands. -/
def undashed (text : String) (afterDash : List Char) : Word :=
  if isUnsignedNumber afterDash || afterDash.contains ' ' then .operand text else .unknown

/-- What follows the short option in the same argument. More short options may follow. -/
def afterShort : List Char → Word
  | [] => .choice .help
  | '-' :: _ => .misused
  | '=' :: _ => .misused
  | 'h' :: rest => afterShort rest
  -- help is given before the rest is looked at
  | _ => .choice .help

/-- An argument that begins with two dashes. -/
def longWord (text : String) (cs : List Char) : Word :=
  let name := cs.takeWhile (· != '=')
  let hasValue := cs.contains '='
  match longOptions.filter fun o => name.isPrefixOf o.1 with
  | [] => undashed text (cs.drop 1)
  | [(_, c)] => if hasValue then .misused else .choice c
  | _ => .ambiguous

/-- Read one argument. -/
def Word.ofText (text : String) : Word :=
  match text.toList with
  | '-' :: c :: rest =>
    if c == '-' then longWord text ('-' :: c :: rest)
    else if ['-', c] == shortHelp then afterShort rest
    else undashed text (c :: rest)
  | _ => .operand text

/-- Read all arguments. After the end of the options there are only operands. -/
def wordsOf : List String → List Word
  | [] => []
  | text :: rest =>
    if text == "--" then .endOfOptions :: rest.map .operand else .ofText text :: wordsOf rest

/-! ## §2 The whole line -/

/-- What the arguments ask for. -/
structure Arguments where
  /-- The name of the user. -/
  username : String
  /-- The password is the first line of standard input. -/
  passwordFromInput : Bool
deriving DecidableEq, Repr

/-- What a command line comes to. -/
inductive Line where
  /-- A user is to be authenticated. -/
  | login (a : Arguments)
  /-- Help was asked for. -/
  | help
  /-- The arguments cannot be used. -/
  | misuse
deriving DecidableEq, Repr

/-- What has been read of a line. -/
structure Progress where
  /-- The name of the user. -/
  username : Option String := none
  /-- The password is the first line of standard input. -/
  passwordFromInput : Bool := false
  /-- Something was too much. -/
  hasExcess : Bool := false
  /-- The last word was the name of the user. -/
  isAfterName : Bool := false

/-- Go through the words. The end of the options may directly follow the name of the user, or come before it. -/
def Line.ofWords (p : Progress) : List Word → Line
  | [] =>
    match p.username with
    | some username => if p.hasExcess then .misuse else .login ⟨username, p.passwordFromInput⟩
    | none => .misuse
  | .choice .help :: _ => .help
  | .misused :: _ => .misuse
  | .ambiguous :: _ => .misuse
  | .choice .passwordFromInput :: rest => ofWords { p with passwordFromInput := true, isAfterName := false } rest
  | .unknown :: rest => ofWords { p with hasExcess := true, isAfterName := false } rest
  | .operand text :: rest =>
    match p.username with
    -- the first operand is the name, every other one is too much
    | none => ofWords { p with username := some text, isAfterName := true } rest
    | some _ => ofWords { p with hasExcess := true, isAfterName := false } rest
  | .endOfOptions :: rest =>
    ofWords { p with hasExcess := p.hasExcess || (p.username.isSome && !p.isAfterName), isAfterName := false } rest

/-- Read a command line. An ambiguous argument makes it unusable, even after a request for help. -/
def Line.parse (arguments : List String) : Line :=
  let words := wordsOf arguments
  if words.contains .ambiguous then .misuse else ofWords {} words

end DirectoryLogin.CommandLine

import DirectoryLogin.CommandLine
/-!
# The Program

The outermost layer: it reads environment variables, arguments and the password, and writes the report. It has no
wire of its own to a server and checks against an empty directory, so it shows whether settings are usable, but
authenticates nobody.
-/

namespace DirectoryLogin

/-- The environment variables that settings are taken from. -/
def readVariables : IO Settings.Variables :=
  Settings.Field.all.filterMapM fun f => do
    let name := "REALM_" ++ f.name.map Char.toUpper
    return (← IO.getEnv name).map (name, ·)

/-- Get a text from a source of passwords. -/
def askPassword : CommandLine.PasswordSource → IO String
  | .input => do (← IO.getStdin).getLine
  | .prompt text => do
    IO.eprint text
    let line ← (← IO.getStdin).getLine
    return String.ofList (line.toList.takeWhile (· != '\n'))

/-- The word for a level. -/
def levelName : Level → String
  | .info => "INFO"
  | .warning => "WARNING"
  | .error => "ERROR"

def levelNumber : Level → Nat
  | .info => 20
  | .warning => 30
  | .error => 40

/-- Run the command line and write what it has to say. -/
def runProgram (arguments : List String) : IO UInt32 := do
  let vars ← readVariables
  let ending ← CommandLine.run {} vars arguments askPassword {}
  for message in ending.world.journal do
    if ending.level ≤ levelNumber message.level then
      IO.eprintln (levelName message.level ++ " - " ++ message.text)
  if let some complaint := ending.outcome.complaint? then IO.eprintln complaint
  IO.print ending.outcome.output
  return ending.outcome.status.toUInt32

end DirectoryLogin

/-- Authenticate one user. -/
def main (arguments : List String) : IO UInt32 :=
  DirectoryLogin.runProgram arguments

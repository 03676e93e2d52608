import DirectoryLogin.CommandLine.Arguments
import DirectoryLogin.CommandLine.Report
import DirectoryLogin.Realm
import DirectoryLogin.Settings.Load
/-!
# The Command Line

A command line authenticates one user and reports the roles. The settings come from environment variables. The
password is asked for only when the settings are known to be usable, and the realm is stopped however the attempt
ends.
-/

namespace DirectoryLogin.CommandLine

/-! ## §1 Endings -/

/-- How a command line ends. -/
inductive Outcome where
  /-- The arguments decided: help was asked for, or they cannot be used. -/
  | exit (code : Nat)
  /-- The configuration cannot be used. -/
  | unusable (complaint : String)
  /-- The user interrupted the attempt. -/
  | interrupted
  /-- The attempt was made. -/
  | reported (r : Report)
  /-- Something failed that is no part of an attempt. -/
  | failed (e : Failure)

/-- The status that a command line ends with. -/
def Outcome.status : Outcome → Nat
  | .exit code => code
  | .unusable _ => 2
  | .interrupted => 130
  | .reported r => if r.roles.isSome then 0 else 1
  | .failed _ => 1

/-- What a command line writes to standard output. -/
def Outcome.output : Outcome → String
  | .reported r => r.text
  | _ => ""

/-- What a command line writes to standard error. -/
def Outcome.complaint? : Outcome → Option String
  | .unusable complaint => some ("Configuration error: " ++ complaint)
  | _ => none

/-! ## §2 Levels -/

/-- The least level that is logged before the settings are known. -/
def usualLevel : Nat := 30

/-- The levels by name. -/
def levels : List (String × Nat) := [
  ("NOTSET", 0), ("DEBUG", 10), ("INFO", 20), ("WARN", 30), ("WARNING", 30), ("ERROR", 40), ("FATAL", 50),
  ("CRITICAL", 50)]

/-- The level of a name, whatever its case. An unknown name stands for messages and above. -/
def levelOf (name : String) : Nat :=
  (levels.lookup (Text.upper name)).getD 20

/-! ## §3 Preparation -/

/-- Where the password comes from. -/
inductive PasswordSource where
  /-- The first line of standard input. -/
  | input
  /-- The user, who is asked with a prompt. -/
  | prompt (text : String)

/-- The password in what a source gave. -/
def PasswordSource.password (source : PasswordSource) (text : String) : String :=
  match source with
  | .input => String.ofList (text.toList.takeWhile (· != '\n'))
  | .prompt _ => text

/-- An attempt for which only the password is missing. -/
structure Attempt where
  /-- The name of the user. -/
  username : String
  /-- Where the password comes from. -/
  source : PasswordSource
  /-- The least level that is logged. -/
  level : Nat
  realm : Realm

/-- The state that a command line leaves behind. -/
structure Ending where
  /-- How it ended. -/
  outcome : Outcome
  /-- The least level that is logged. -/
  level : Nat
  /-- Everything outside. -/
  world : World

/-- Prepare an attempt, or end early. -/
def prepare (registry : Registry) (vars : Settings.Variables) (arguments : List String) (w : World) :
    Except Ending Attempt :=
  match Line.parse arguments with
  | .help => .error ⟨.exit 0, usualLevel, w⟩
  | .misuse => .error ⟨.exit 2, usualLevel, w⟩
  | .login a =>
    let build : Session World (Settings × Realm) := do
      let s ← Session.ofExcept (Settings.load [] vars)
      return (s, ← Realm.create registry ⟨0, s⟩ none)
    match build.perform w with
    | (.ok (s, realm), _) =>
      let source := if a.passwordFromInput then .input else .prompt ("Password for " ++ a.username ++ ": ")
      .ok ⟨a.username, source, levelOf s.logLevel, realm⟩
    | (.error (.configuration fault), w) => .error ⟨.unusable fault.message, usualLevel, w⟩
    | (.error e, w) => .error ⟨.failed e, usualLevel, w⟩

/-! ## §4 The attempt -/

/-- Start the realm and authenticate the user. -/
def login (username password : String) : Login Outcome := do
  Login.start
  match ← Login.authenticate (some username) (some (.text password)) with
  | some p => return .reported ⟨p.username, some p.roles⟩
  | none => return .reported ⟨username, none⟩

/-- The attempt; an interrupt ends it early. The realm is stopped in any case. -/
def loginOnce (username password : String) : Login Outcome :=
  ((login username password).rescue fun
    | .interrupt _ => some (return .interrupted)
    | _ => none).ensure Login.stop

/-- Make an attempt with what the source of the password gave. -/
def Attempt.make (a : Attempt) (text : String) : Ending :=
  match (loginOnce a.username (a.source.password text)).perform a.realm with
  | (.ok outcome, r) => ⟨outcome, a.level, r.manager.world⟩
  | (.error e, r) => ⟨.failed e, a.level, r.manager.world⟩

/-- Run a command line. `ask` gets a text from a source of passwords. -/
def run {m : Type → Type} [Monad m] (registry : Registry) (vars : Settings.Variables)
    (arguments : List String) (ask : PasswordSource → m String) (w : World) : m Ending :=
  match prepare registry vars arguments w with
  | .error ending => return ending
  | .ok attempt => return attempt.make (← ask attempt.source)

end DirectoryLogin.CommandLine

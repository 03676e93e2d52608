/-!
# Problems of Settings

Why one setting is rejected. A rejected set of settings lists one problem for each setting at fault.
-/

namespace DirectoryLogin.Settings

/-- What is wrong with the value of one setting. -/
inductive Problem where
  /-- A text is needed. -/
  | notText
  /-- A whole number is needed. -/
  | notInteger
  /-- A text that spells no whole number. -/
  | unreadableInteger
  /-- A whole number that is too large. -/
  | tooLarge
  /-- A number with a fraction. -/
  | fraction
  /-- A truth value is needed. -/
  | notFlag
  /-- A text or whole number that spells no truth value. -/
  | unreadableFlag
  /-- A text that is not well formed. -/
  | notUnicode
  /-- None of the allowed values of a setting with a few named values. -/
  | notAmong (name : String) (allowed : List String)
  /-- A pool without room for a connection. -/
  | poolTooSmall
  /-- A number below zero. -/
  | negative
  /-- No setting has this name. -/
  | unknownName
  /-- Settings never change once they are loaded. -/
  | frozen
deriving DecidableEq, Repr

/-- What a setting's own rule says about its value; nothing where the value is of the wrong kind. -/
def Problem.ruleText? : Problem → Option String
  | .notAmong name allowed => some (name ++ " must be one of " ++ ", ".intercalate allowed)
  | .poolTooSmall => some "connection_pool_size must be at least 1"
  | .negative => some "must not be negative"
  | _ => none

/-- A problem and the setting that has it. -/
structure Detail where
  /-- The name of the setting. -/
  name : String
  /-- What is wrong with it. -/
  problem : Problem
deriving DecidableEq, Repr

end DirectoryLogin.Settings

import DirectoryLogin.Failure
import DirectoryLogin.Number.Literal
import DirectoryLogin.Settings.Field
/-!
# Loading Settings

The value of a setting is taken from the arguments, else from the environment variable `REALM_<NAME>`, else it is
the usual one. It is brought to the kind of its setting, and then checked by the setting's own rule. Names of
arguments and of variables are compared without case.

Loading fails if any setting is at fault, or if an argument is no setting. The failure lists every fault: those
of settings in the order of the settings, then unknown names in the order given.
-/

namespace DirectoryLogin.Settings

/-! ## §1 Coercion -/

/-- A whole number fits into a machine word; both ends of the range are left out. -/
def fitsWord (n : Int) : Bool :=
  n.natAbs < Nat.pow 2 63

/-- A whole number has no more digits than a numeral may have. -/
def fitsNumeral (n : Int) : Bool :=
  n.natAbs < Nat.pow 10 Number.digitLimit

/-- A whole number out of a value. -/
def toInteger : Value → Except Problem Int
  | .integer n => .ok n
  | .flag b => .ok (if b then 1 else 0)
  | .real x => match x.toInt? with
    | some n => if fitsWord n then .ok n else .error .tooLarge
    | none => .error .fraction
  | .text s => match Number.settingInteger? s with
    | some n => if fitsNumeral n then .ok n else .error .tooLarge
    | none => .error .unreadableInteger
  | .broken _ => .error .notUnicode
  | _ => .error .notInteger

/-- The spellings of a truth value. -/
def flagSpellings : List (String × Bool) := [
  ("0", false), ("off", false), ("f", false), ("false", false), ("n", false), ("no", false),
  ("1", true), ("on", true), ("t", true), ("true", true), ("y", true), ("yes", true)]

/-- A truth value out of a value. -/
def toFlag : Value → Except Problem Bool
  | .flag b => .ok b
  | .integer n => if n = 0 then .ok false else if n = 1 then .ok true else .error .unreadableFlag
  | .real x => match x.toInt? with
    | some n =>
      if n = 0 then .ok false else if n = 1 then .ok true
      else if fitsWord n then .error .unreadableFlag else .error .notFlag
    | none => .error .notFlag
  | .text s => match flagSpellings.lookup (Text.lower s) with
    | some b => .ok b
    | none => .error .unreadableFlag
  | .broken _ => .error .notUnicode
  | _ => .error .notFlag

/-- A value brought to the kind of a setting. -/
def coerce : Field.Kind → Value → Except Problem Value
  | .text, .text s => .ok (.text s)
  | .text, .broken _ => .error .notUnicode
  | .text, _ => .error .notText
  | .optionalText, .text s => .ok (.text s)
  | .optionalText, .null => .ok .null
  | .optionalText, .broken _ => .error .notUnicode
  | .optionalText, _ => .error .notText
  | .integer, v => (toInteger v).map .integer
  | .flag, v => (toFlag v).map .flag

/-! ## §2 Rules -/

/-- What may be done with referrals. -/
def referralModes : List String := ["ignore", "follow", "throw"]

/-- When aliases may be followed. -/
def aliasModes : List String := ["always", "never", "finding", "searching"]

/-- A text, if there is one, is among the allowed ones. -/
def amongRule (name : String) (allowed : List String) : Value → Except Problem Unit
  | .text s => if allowed.contains s then .ok () else .error (.notAmong name allowed)
  | _ => .ok ()

/-- A number is not below the least one. -/
def leastRule (least : Int) (problem : Problem) : Value → Except Problem Unit
  | .integer n => if n < least then .error problem else .ok ()
  | _ => .ok ()

/-- The rule of a setting. -/
def rule : Field → Value → Except Problem Unit
  | .referrals, v => amongRule "referrals" referralModes v
  | .derefAliases, v => amongRule "deref_aliases" aliasModes v
  | .connectionPoolSize, v => leastRule 1 .poolTooSmall v
  | .connectionTimeout, v | .readTimeout, v | .sizeLimit, v | .timeLimit, v => leastRule 0 .negative v
  | _, _ => .ok ()

/-! ## §3 Sources -/

/-- Arguments by name, in the order given. -/
abbrev Arguments := List (String × Value)

/-- Environment variables, in the order in which they were set. -/
abbrev Variables := List (String × String)

/-- The last entry whose name is the given one apart from case. -/
def lastNamed? {α : Type} (name : String) (entries : List (String × α)) : Option α :=
  (entries.reverse.find? fun e => Text.lower e.1 == name).map (·.2)

/-- The variable of a setting, in lower case. -/
def variableName (f : Field) : String :=
  "realm_" ++ f.name

/-- The value that is given for a setting. -/
def given? (arguments : Arguments) (vars : Variables) (f : Field) : Option Value :=
  match lastNamed? f.name arguments with
  | some v => some v
  | none => (lastNamed? (variableName f) vars).map .text

/-- The value of a setting, or what is wrong with the one that was given. -/
def chosen (arguments : Arguments) (vars : Variables) (f : Field) : Except Problem Value :=
  match given? arguments vars f with
  | some v => do
    let v ← coerce f.kind v
    rule f v
    return v
  | none => .ok (usual.value f)

/-! ## §4 Loading -/

/-- The name of an argument is that of a setting. -/
def isKnown (name : String) : Bool :=
  Field.all.any fun f => f.name == Text.lower name

/-- The fault of a setting, if it has one. -/
def fault? (arguments : Arguments) (vars : Variables) (f : Field) : Option Detail :=
  match chosen arguments vars f with
  | .error problem => some ⟨f.name, problem⟩
  | .ok _ => none

/-- All faults. -/
def faults (arguments : Arguments) (vars : Variables) : List Detail :=
  Field.all.filterMap (fault? arguments vars)
    ++ (arguments.filter fun a => !isKnown a.1).map fun a => ⟨a.1, .unknownName⟩

/-- The value of a setting that has no fault. -/
def chosenValue (arguments : Arguments) (vars : Variables) (f : Field) : Value :=
  match chosen arguments vars f with
  | .ok v => v
  | .error _ => usual.value f

def load (arguments : Arguments) (vars : Variables) : Except Failure Settings :=
  match faults arguments vars with
  | [] => .ok (ofValues (chosenValue arguments vars))
  | details => .error (.configuration (.settings details))

/-- Settings cannot be assigned to: the first attempt is a fault. -/
def assign : Arguments → List Detail
  | [] => []
  | (name, _) :: _ => [⟨name, .frozen⟩]

end DirectoryLogin.Settings

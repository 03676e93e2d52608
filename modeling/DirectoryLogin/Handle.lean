import DirectoryLogin.Connection.Basic
import DirectoryLogin.Password
import DirectoryLogin.PatternList
import DirectoryLogin.Template
/-!
# Handles

A handle is what the rest of the program holds of a connection: the snapshot of the settings it was made for,
their templates in compiled form, and the connection itself while it is open. New settings never change a handle
that exists.
-/

namespace DirectoryLogin

/-- The templates of some settings. -/
structure Templates where
  /-- The filter that finds a user. -/
  userSearch : Option Template
  /-- The patterns of names of users. -/
  userPatterns : Option (List Template)
  /-- Below which entry roles are searched. -/
  roleBase : Option Template
  /-- The filter that finds the roles of a user. -/
  roleSearch : Option Template
deriving DecidableEq, Repr

/-- The patterns of names of users, or none if users are searched for. -/
def Settings.userPatternList (s : Settings) : Except Failure (Option (List String)) :=
  PatternList.parse? s.userPattern

def Templates.compile (s : Settings) : Except Failure Templates := do
  let userSearch ← Template.compile? s.userSearch
  let userPatterns ← match ← s.userPatternList with
    | some patterns => (patterns.mapM Template.compile).map some
    | none => pure none
  -- an empty base has no slots and needs no template; an empty filter is still a filter
  let roleBase ← if s.roleBase == "" then pure none else (Template.compile s.roleBase).map some
  let roleSearch ← Template.compile? s.roleSearch
  return ⟨userSearch, userPatterns, roleBase, roleSearch⟩

/-- A connection that may be open, and what it was made for. -/
structure Handle where
  /-- The settings it was made for. -/
  snapshot : Snapshot
  /-- It belongs to a pool. -/
  pooled : Bool
  /-- The templates of its settings. -/
  templates : Templates
  /-- The connection, while it is open. -/
  connection : Option Connection := none

namespace Handle

def settings (h : Handle) : Settings :=
  h.snapshot.settings

/-- A handle without a connection. -/
def create (snapshot : Snapshot) (pooled : Bool) : Except Failure Handle := do
  let templates ← Templates.compile snapshot.settings
  return { snapshot := snapshot, pooled := pooled, templates := templates }

/-- How a handle is shown. -/
def describe (h : Handle) : String :=
  "ConnectionHandle(" ++ (if h.connection.isSome then "open" else "closed") ++ ", pooled="
    ++ (if h.pooled then "True" else "False") ++ ")"

end Handle

/-! ## Acting as a user -/

namespace Exchange

/-- Put a user into the environment. -/
def assumeUser (name : Option String) (credentials : Option Password) : Exchange Unit :=
  edit fun e =>
    (e.insert Environment.principal (.ofOption name)).insert Environment.credentials (.ofPassword credentials)

/-- Put the service, or nobody, back into the environment. -/
def resumeService (s : Settings) : Exchange Unit :=
  edit fun e =>
    (e.assign Environment.principal s.connectionName).assign Environment.credentials s.connectionPassword

/-- Run a step as a user. -/
def boundAs {α : Type} (s : Settings) (name : Option String) (credentials : Option Password) (x : Exchange α) :
    Exchange α := do
  assumeUser name credentials
  x.ensure (resumeService s)

end Exchange

end DirectoryLogin

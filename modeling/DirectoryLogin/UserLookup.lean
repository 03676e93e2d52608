import DirectoryLogin.Filter.Escape
import DirectoryLogin.Handle
import DirectoryLogin.Name.Compose
import DirectoryLogin.User
/-!
# Finding Users

A user is found by putting the user name into a pattern of names, or by a search that has to return exactly one
entry. User names are escaped for the place they are put into.
-/

namespace DirectoryLogin

/-! ## §1 Incomplete results -/

/-- A failure that the settings allow to be passed over: results that are incomplete. -/
def Settings.tolerates (s : Settings) (e : Failure) : Bool :=
  s.adCompat && e.directoryKind? == some .partialResult

/-- Fail with the failure after some results, unless it may be passed over. -/
def Settings.checkEnding {σ : Type} (s : Settings) (ending : Option Failure) : Session σ Unit :=
  match ending with
  | some e => if s.tolerates e then return else throw e
  | none => return

/-! ## §2 Entries as users -/

/-- The attributes that are read for a user. -/
def Settings.attributeIds (s : Settings) : List String :=
  [s.userPassword, s.userRoleName, s.userRoleAttribute].filterMap id

def User.ofEntry (s : Settings) (username : Option String) (dn : String) (attributes : Attributes) : User where
  username := username
  dn := some dn
  password := (Attributes.first? s.userPassword (some attributes)).map .text
  roles := Attributes.values s.userRoleName (some attributes)
  roleId := Attributes.first? s.userRoleAttribute (some attributes)

namespace Exchange

/-! ## §3 By pattern -/

/-- The user whose entry has this name. Without attributes to read, the entry is taken to exist. -/
def userByDn (s : Settings) (username : String) (ids : List String) (dn : String) : Exchange (Option User) :=
  if ids.isEmpty then return some { username := some username, dn := some dn }
  else do
    let readEntry : Exchange (Option Attributes) := read dn (some ids)
    let attributes ← readEntry.rescue fun e =>
      if e.directoryKind? == some .nameNotFound then some (return none) else none
    return attributes.map (User.ofEntry s (some username) dn)

/-- The pattern of a number. There is none beyond the last one; a negative number counts from the end. -/
def patternAt (patterns : List Template) (index : Int) : Except Failure (Option Template) :=
  if 0 ≤ index then .ok patterns[index.toNat]?
  else if -index ≤ patterns.length then .ok patterns[patterns.length - index.natAbs]?
  else .error (.defect (.other "IndexError") "list index out of range")

/-- The user of a pattern. If the service may not read the entry, it is read as the user. -/
def userByPattern (h : Handle) (username : Option String) (password : Option Password) (ids : List String)
    (index : Int) : Exchange (Option User) :=
  match username, h.templates.userPatterns with
  | some name, some patterns => do
    match ← Session.ofExcept (patternAt patterns index) with
    | none => return none
    | some pattern =>
      let dn := pattern.fill [some (Name.escapeValue name)]
      (userByDn h.settings name ids dn).rescue fun e =>
        -- the service may not read the entry, but its owner may
        if e.directoryKind? == some .authentication && password.isSome then
          some (boundAs h.settings (some dn) password (userByDn h.settings name ids dn))
        else none
  | _, _ => return none

/-! ## §4 By search -/

/-- The only result of a search, if there is exactly one. -/
def onlyResult (s : Settings) (username : String) (results : Results) : Exchange (Option SearchResult) :=
  match results.items with
  | [] => do
    s.checkEnding results.ending
    return none
  | [r] => do
    s.checkEnding results.ending
    return some r
  | _ => do
    -- whatever would come after the second result is not looked at
    onWorld (World.say .info .users ("Username " ++ username ++ " has multiple entries in the directory"))
    return none

/-- What is asked of a search for a user. -/
def userControls (s : Settings) (ids : List String) : SearchControls where
  subtree := s.userSubtree
  sizeLimit := s.sizeLimit
  timeLimit := s.timeLimit
  attributes := some ids

/-- The user that the search filter finds. -/
def userBySearch (h : Handle) (username : Option String) (ids : List String) : Exchange (Option User) :=
  match username, h.templates.userSearch with
  | some name, some template => do
    let s := h.settings
    let results ← search s.userBase (template.fill [some (Filter.escape name)]) (userControls s ids)
    match ← onlyResult s name results with
    | none => return none
    | some result =>
      let c ← connection
      let dn ← Session.ofExcept (Name.ofResult c.namespaceName s.userBase result s.forceDnHexEscape)
      return result.attributes.map (User.ofEntry s username dn)
  | _, _ => return none

/-! ## §5 Lookups -/

/-- The user with the presented password kept, where the password is not stored in the entry: roles may then be
searched as the user. -/
def keepPassword (s : Settings) (password : Option Password) (u : User) : User :=
  if s.userPassword.isNone && password.isSome then u.withPassword password else u

/-- Find a user by the pattern of this number; a negative number stands for a search. -/
def getUser (h : Handle) (username : Option String) (password : Option Password) (index : Int) :
    Exchange (Option User) := do
  let s := h.settings
  let ids := s.attributeIds
  let user ←
    if h.templates.userPatterns.isSome && 0 ≤ index then userByPattern h username password ids index
    else if s.userSearchAsUser then boundAs s username password (userBySearch h username ids)
    else userBySearch h username ids
  return user.map (keepPassword s password)

/-- The first user that one of the patterns from this number on finds. -/
def firstByPattern (h : Handle) (username : Option String) (index : Nat) : List Template → Exchange (Option User)
  | [] => return none
  | _ :: rest => do
    match ← getUser h username none index with
    | some user => return some user
    | none => firstByPattern h username (index + 1) rest

/-- Find a user of whom no password was presented: by search if there is a filter, else by the patterns. -/
def findUser (h : Handle) (username : Option String) : Exchange (Option User) :=
  match h.templates.userSearch, h.templates.userPatterns with
  | none, some patterns => firstByPattern h username 0 patterns
  | _, _ => getUser h username none (-1)

end Exchange

end DirectoryLogin

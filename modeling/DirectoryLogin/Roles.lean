import DirectoryLogin.UserLookup
/-!
# Roles

The roles of a user: those its entry lists, the role that every user has, and the names of the groups that a
search finds. Groups may be members of groups: then every group found is searched for in turn, until no new one
turns up.

The search for nested groups is a queue. `done` are the groups that have been searched for, `pending` those that
have been found since; a group whose name is in neither goes to the end of `pending`. So every group is searched
for once, in the order of discovery.
-/

namespace DirectoryLogin

/-- A group: the name of its entry and the name of its role. -/
structure Group where
  /-- The name of the entry. -/
  dn : String
  /-- The name of the role. -/
  name : String
deriving DecidableEq, Repr

namespace Group

/-- A group of this name is in the list. -/
def isIn (groups : List Group) (dn : String) : Bool :=
  groups.any (·.dn == dn)

/-- Add a group to a list. A group that is there keeps its place and takes the new role name. -/
def put (groups : List Group) (g : Group) : List Group :=
  if isIn groups g.dn then groups.map fun other => if other.dn == g.dn then g else other else groups ++ [g]

end Group

namespace Exchange

/-! ## §1 One search -/

/-- Search as the settings ask for: as the user, or as the service. -/
def searchAs (s : Settings) (user : User) (base filter : String) (controls : SearchControls) : Exchange Results :=
  if s.roleSearchAsUser then boundAs s user.dn user.password (search base filter controls)
  else search base filter controls

/-- Collect the named groups among results. -/
def collectGroups (s : Settings) (namespaceName base : String) (groups : List Group) :
    List SearchResult → Except Failure (List Group)
  | [] => .ok groups
  | r :: rest =>
    match r.attributes with
    | none => collectGroups s namespaceName base groups rest
    | some attributes => do
      let dn ← Name.ofResult namespaceName base r s.forceDnHexEscape
      match Attributes.first? s.roleName (some attributes) with
      | some name => collectGroups s namespaceName base (Group.put groups ⟨dn, name⟩) rest
      | none => collectGroups s namespaceName base groups rest

/-- What is asked of a search for groups. -/
def roleControls (s : Settings) : SearchControls where
  subtree := s.roleSubtree
  attributes := some s.roleName.toList

/-- The named groups that a filter finds. -/
def searchGroups (s : Settings) (user : User) (base filter : String) : Exchange (List Group) := do
  let results ← searchAs s user base filter (roleControls s)
  let c ← connection
  -- a name that cannot be composed counts before the failure at the end of the results
  let groups ← Session.ofExcept (collectGroups s c.namespaceName base [] results.items)
  s.checkEnding results.ending
  return groups

/-! ## §2 Nested groups -/

/-- The filter that finds the groups which a group is a member of. -/
def nestedFilter (template : Template) (g : Group) : String :=
  let name := Filter.escape (Name.escapeValue g.name)
  template.fill [some (Filter.escape g.dn), some name, some name]

/-- Search for the pending groups one after the other, at most `bound` of them. -/
def closeOver (s : Settings) (user : User) (base : String) (template : Template) :
    Nat → List Group → List Group → Exchange (List Group)
  | _, done, [] => return done
  -- not reached while the directory stays as it is: there is a step for every group it can return
  | 0, done, pending => return done ++ pending
  | bound + 1, done, g :: pending => do
    let found ← searchGroups s user base (nestedFilter template g)
    let fresh := found.filter fun f => !Group.isIn (done ++ g :: pending) f.dn
    closeOver s user base template bound (done ++ [g]) (pending ++ fresh)

/-- All groups that can be reached from the given ones. There are no more of them than the directory can return
results. -/
def nestedGroups (s : Settings) (user : User) (base : String) (template : Template) (groups : List Group) :
    Exchange (List Group) := do
  let w := (← get).world
  closeOver s user base template (groups.length + w.directory.extent) [] groups

/-! ## §3 All roles -/

/-- Where the roles of a user are searched. The slots of the base take the components of the user's name. -/
def roleBase (h : Handle) (dn : String) : Except Failure String :=
  match h.templates.roleBase with
  | none => .ok ""
  | some template =>
    if template.argumentCount == 0 then .ok (template.fill [])
    else (Name.parse dn).map fun parts => template.fill (parts.map fun p => some (Name.normalizeEscapes p))

/-- The filter that finds the groups of a user. -/
def roleFilter (template : Template) (dn username : String) (roleId : Option String) : String :=
  template.fill [some (Filter.escape dn), some (Filter.escape (Name.escapeValue username)),
    roleId.map fun id => Filter.escape (Name.escapeValue id)]

/-- The roles of a user; a user without a name or an entry has none to speak of. -/
def rolesOf (h : Handle) (user : User) : Exchange (Option (List String)) :=
  match user.dn, user.username with
  | some dn, some username => do
    let s := h.settings
    let own := user.roles ++ s.commonRole.toList
    match h.templates.roleSearch, s.roleName with
    | some template, some _ =>
      let filter := roleFilter template dn username user.roleId
      let base ← Session.ofExcept (roleBase h dn)
      let groups ← searchGroups s user base filter
      let groups ← if s.roleNested then nestedGroups s user base template groups else pure groups
      return some (own ++ groups.map (·.name))
    | _, _ => return some own
  | _, _ => return none

end Exchange

end DirectoryLogin

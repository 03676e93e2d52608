import DirectoryLogin.Password
/-!
# Users and Principals

A user is an entry that has been found in the directory; a principal is a user whose identity has been
established, with the roles granted to it.
-/

namespace DirectoryLogin

/-- A user found in the directory. The name of its entry is escaped as the directory writes it, or was built
from an escaped user name. -/
structure User where
  /-- The name under which the user was looked up. -/
  username : Option String
  /-- The name of the entry. -/
  dn : Option String
  /-- The stored password, or the presented one if passwords are not stored. -/
  password : Option Password := none
  /-- The roles that the entry itself lists. -/
  roles : List String := []
  /-- A value of the entry that role searches refer to. -/
  roleId : Option String := none
deriving DecidableEq, Repr

namespace User

/-- The same user with another password. -/
def withPassword (u : User) (password : Option Password) : User :=
  { u with password := password }

/-- How a user is shown: without the password. -/
def describe (u : User) : String :=
  "User(username=" ++ Text.quotedOrNone u.username ++ ", dn=" ++ Text.quotedOrNone u.dn
    ++ ", roles=" ++ Text.quotedList u.roles ++ ")"

end User

/-- A user whose identity has been established. -/
structure Principal (Credential : Type) where
  /-- The name of the user. -/
  username : String
  /-- The roles granted to the user. -/
  roles : List String
  delegated : Credential
deriving DecidableEq, Repr

namespace Principal

def hasRole {Credential : Type} (p : Principal Credential) (role : String) : Bool :=
  p.roles.contains role

end Principal

end DirectoryLogin

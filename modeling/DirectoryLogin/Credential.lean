import DirectoryLogin.Handle
import DirectoryLogin.Registry
import DirectoryLogin.User
/-!
# Verifying Credentials

A presented password is checked by binding as the user, or, where the settings name the attribute that stores
passwords, by comparing it with the stored one.
-/

namespace DirectoryLogin

/-- The name of the mechanism for delegated credentials. -/
def delegationMechanism : String := "GSSAPI"

namespace Exchange

/-- Bind as the user and read the root. Only a refused identity means that the password is wrong; every other
failure is passed on. The mechanism for delegated credentials is not used for the bind of a user. -/
def verifyByBind (s : Settings) (user : User) (password : Option Password) : Exchange Bool := do
  if user.dn.isNone || !(Value.ofPassword password).isGiven then return false
  let preserved := (← connection).environment
  assumeUser user.dn password
  -- a bind with a delegated credential would say nothing about the password
  if (preserved.value Environment.authentication).text? == some delegationMechanism then
    edit (·.erase Environment.authentication)
  let attempt : Exchange Bool := do
    let _ ← read "" none
    return true
  let verdict := attempt.rescue fun e =>
    if e.directoryKind? == some .authentication then some (return false) else none
  verdict.ensure do
    edit (·.restore Environment.authentication (some preserved))
    resumeService s

/-- Compare with the stored password; a user without one is never accepted. -/
def verifyByAttribute (m : Matcher) (user : User) (password : Option Password) : Exchange Bool :=
  if user.password.isNone then return false else Session.ofExcept (m.compare password user.password)

/-- Check a password in the way that the settings ask for. -/
def verify (s : Settings) (m : Matcher) (user : User) (password : Option Password) : Exchange Bool :=
  if s.userPassword.isNone then verifyByBind s user password else verifyByAttribute m user password

end Exchange

end DirectoryLogin

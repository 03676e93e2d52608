import DirectoryLogin.Proofs.PatternLists
import DirectoryLogin.Proofs.Realm.HistoryIndependence
import DirectoryLogin.Proofs.Users.StoredPasswords
/-!
# Logins by Stored Passwords

Where passwords are compared with stored ones and users are found by a search, a login over a directory without faults
is decided by one answer: there is a principal exactly if the answer to the search of the service holds a single entry,
and the first text of its password attribute is the presented password.

- `Exchange.authenticate_stored`: the login over one connection of the service.
- `Directory.Resolves`: what is made of a single entry, and of it alone.
- `login_by_stored_password`: the login of a new realm.
-/

namespace DirectoryLogin

namespace Exchange

/-! ## §1 Over a connection -/

section Connection

variable {h : Handle} {username passwordName name : String} {password : Password} {attempt : Int} {service : Value}
  {template : Template} {r : Response} {policy : Option TlsArguments} {d : Directory} {ch : Channel}

/-- The roles that a user with an entry has over some connection of the service, it has over this one too. -/
theorem roles_of_answers {user : User} {dn : String} {groups : List Group} {ch' : Channel}
    (hestablished : Connection.Established .standard policy h.settings ch) (hsimilar : ch.Similar ch')
    (hdn : user.dn = some dn) (hname : user.username = some username)
    (hgroups : Connection.Answers ch.world.directory .standard policy h.settings (groupsOfUser h user dn username)
      (.ok groups)) :
    ((rolesOf h user).perform ch').1 =
      .ok (some (user.roles ++ h.settings.commonRole.toList ++ groups.map (·.name))) := by
  have hroles : Connection.Answers ch.world.directory .standard policy h.settings (rolesOf h user)
      (.ok (some (user.roles ++ h.settings.commonRole.toList ++ groups.map (·.name)))) := by
    generalize hresult : (Except.ok groups : Except Failure (List Group)) = result at hgroups
    cases hgroups with
    | @opened other hother hdirectory =>
      have hroles : ((rolesOf h user).perform other).1 =
          .ok (some (user.roles ++ h.settings.commonRole.toList ++ groups.map (·.name))) := by
        rw [rolesOf_eq hdn hname, Session.perform_bind_of_ok (Prod.ext hresult.symm rfl)]
        rfl
      rw [← hroles]
      exact .opened hother hdirectory
    | unopened => cases hresult
  -- nothing that was done over this connection in between makes a difference
  have hhere := hroles.unique Orderly.rolesOf (.opened hestablished rfl)
  rw [hhere, (Orderly.rolesOf.similar hsimilar).1]

variable (hestablished : Connection.Established .standard policy h.settings ch)
  (hpatterns : h.templates.userPatterns = none) (hstored : h.settings.userPassword = some passwordName)
  (hservice : h.settings.userSearchAsUser = false)
  (hin : ch.world.directory.LetsIn policy h.settings name attempt service)
  (htemplate : h.templates.userSearch = some template)
  (hanswer : ch.world.directory.search service (userRequest h.settings name attempt template username) = .ok r)
  (hcomplete : r.IsComplete)
include hestablished hpatterns hstored hservice hin htemplate hanswer hcomplete

/-- An answer that is not a single entry is no login. -/
theorem authenticate_stored_of_others (hentries : r.entries.length ≠ 1) :
    ((authenticate h .plain username password).perform ch).1 = .ok none := by
  obtain ⟨ch', hsearch, -⟩ := userSearch_answered hestablished hin htemplate hanswer
  exact authenticate_of_others hpatterns hstored hservice hsearch hcomplete hentries

/-- **A single entry** is a login exactly if the first text of its password attribute is the presented password. -/
theorem authenticate_stored {entry : String × Option Attributes} {user : User} {dn : String} {groups : List Group}
    (hentry : r.entries = [entry])
    (huser : userOfEntry h.settings username (serviceConnection h.settings name attempt) entry = .ok user)
    (hdn : user.dn = some dn)
    (hgroups : Connection.Answers ch.world.directory .standard policy h.settings (groupsOfUser h user dn username)
      (.ok groups)) :
    ((authenticate h .plain username password).perform ch).1.toOption.join =
      if (Attributes.textsNamed entry.2 passwordName).head?.map .text = some password then
        some ⟨user, ⟨username, h.settings.userRoleName.toList.flatMap (Attributes.textsNamed entry.2) ++
          h.settings.commonRole.toList ++ groups.map (·.name), .null⟩⟩
      else none := by
  obtain ⟨ch', hsearch, hnamespace⟩ := userSearch_answered hestablished hin htemplate hanswer
  have huser' : userOfEntry h.settings username ch'.connection entry = .ok user := by
    rw [← huser]
    simp only [userOfEntry, serviceConnection, Connection.fullName, hnamespace]
  obtain ⟨hname, -, hpassword, hroles⟩ := of_userOfEntry hstored huser
  -- the search leaves the connection similar to what it was
  have hsimilar : ch.Similar ch' := by
    obtain ⟨_, hfilter, hrun⟩ := hsearch.search_eq
    have hproceeds := search_proceeds _ _ _ |>.of_perform hrun
    exact (hestablished.similar hestablished rfl).proceeds (refl_of Channel.Proceeds ch) hproceeds
  -- a text that an entry lists is always well formed
  have hstores : user.Stores password ↔
      (Attributes.textsNamed entry.2 passwordName).head?.map .text = some password := by
    rw [User.Stores, hpassword]
    refine and_iff_left_of_imp fun hlisted => ?_
    obtain ⟨text, -, rfl⟩ := Option.map_eq_some_iff.mp hlisted
    rfl
  rw [authenticate_of_single hpatterns hstored hservice hsearch hcomplete hentry huser']
  split
  · rename_i hlisted
    rw [authenticateUser_of_stores hstored (hstores.mpr hlisted),
      result_principalOf (roles_of_answers hestablished hsimilar hdn hname hgroups), hroles]
    rfl
  · rename_i hother
    have hrefused := refused_of_not_stores username hstored (mt hstores.mp hother) ch'
    generalize ((authenticateUser h .plain username password user).perform ch').1 = result at hrefused
    cases hrefused with
    | wrong => rfl
    | flawed flaw => rfl

end Connection

end Exchange

/-! ## §2 Over a realm -/

/-- An answer is that of the program over any handle for the active settings. -/
theorem Manager.Answers.ofHandle {α : Type} {m : Manager} {x : Handle → Exchange α} {a : Except Failure α} {h : Handle}
    (hx : Exchange.Uniform x) (ha : m.Answers x a) (hsettings : h.settings = m.active.settings)
    (hcompile : Templates.compile h.settings = .ok h.templates) :
    Connection.Answers m.world.directory m.connector m.tls h.settings (x h) a := by
  obtain ⟨h', hsettings', hcompile', ha⟩ := ha
  have hsame : h'.settings = h.settings := hsettings'.trans hsettings.symm
  rw [hsame, hcompile] at hcompile'
  rw [hx.congr hsame (Except.ok.inj hcompile').symm, ← hsettings] at ha
  exact ha

/-- A login by a name and a password is the answer of one program, over some connection for the active settings. -/
theorem Realm.Regular.authenticate_answers {given : Option Matcher} {registry : Registry} {d : Directory} {r : Realm}
    (hr : Regular given registry d r) {username : String} {password : Password} (husername : username ≠ "")
    (hpassword : password ≠ "") :
    ∃ a, ((Login.authenticate (some username) (some password)).perform r).1 =
        .ok (a.toOption.join.map (·.principal)) ∧
      r.manager.Answers (fun h => Exchange.authenticate h r.matcher username password) a := by
  obtain ⟨a, m, hrun, -, -, ha⟩ := Managed.answer_run "authentication"
    (Exchange.uniform_authenticate r.matcher username password) hr.manager hr.unlocked
  refine ⟨a, ?_, ha⟩
  have hname := Login.nonEmpty?_some husername
  have hword := Login.givenPassword?_some hpassword
  -- the answer of the manager is the grant of the realm
  have hprogram : ((Login.onManager (Managed.answer "authentication" fun h =>
      Exchange.authenticate h r.matcher username password)).perform r).1 = .ok a.toOption.join :=
    congrArg Prod.fst hrun
  have hgrant : ((Login.grant (some username) (some password)).perform r).1 = .ok a.toOption.join := by
    simp only [Login.grant, hname, hword]
    rw [Session.perform_bind_of_ok (Session.perform_get r), Session.perform_bind_of_ok (Prod.ext hprogram rfl)]
    rcases a.toOption.join <;> rfl
  rw [Login.authenticate, Session.perform_bind_of_ok (Prod.ext hgrant rfl)]
  rfl

/-- Without a pattern of names there are none to try. -/
theorem Templates.userPatterns_of_compile {s : Settings} {templates : Templates}
    (h : Templates.compile s = .ok templates) (hpattern : s.userPattern = none) : templates.userPatterns = none := by
  have hnone : s.userPatternList = .ok none := by rw [Settings.userPatternList, hpattern, PatternList.parse?]
  exact (Except.ok.inj (ofPatterns_of_compile h hnone)).symm

/-- An entry is made a user, and the groups of the user are found over a connection of the service. -/
structure Directory.Resolves (d : Directory) (policy : Option TlsArguments) (h : Handle) (name : String)
    (attempt : Int) (username : String) (entry : String × Option Attributes) (user : User) (groups : List Group) :
    Prop where
  made : Exchange.userOfEntry h.settings username (Exchange.serviceConnection h.settings name attempt) entry = .ok user
  found : ∀ dn, user.dn = some dn → Connection.Answers d .standard policy h.settings
    (Exchange.groupsOfUser h user dn username) (.ok groups)

/-- An entry is made one user, with the same groups over every connection of the service. -/
theorem Directory.Resolves.unique {d : Directory} {policy : Option TlsArguments} {h : Handle} {name : String}
    {attempt : Int} {username passwordName : String} {entry : String × Option Attributes} {user user' : User}
    {groups groups' : List Group} (hstored : h.settings.userPassword = some passwordName)
    (hr : d.Resolves policy h name attempt username entry user groups)
    (hr' : d.Resolves policy h name attempt username entry user' groups') : user = user' ∧ groups = groups' := by
  obtain rfl := Except.ok.inj (hr.made.symm.trans hr'.made)
  obtain ⟨-, ⟨dn, hdn⟩, -⟩ := Exchange.of_userOfEntry hstored hr.made
  exact ⟨rfl, Except.ok.inj ((hr.found dn hdn).unique Exchange.Orderly.groupsOfUser (hr'.found dn hdn))⟩

/-! ## §3 The theorem -/

open Exchange

/-- **Logging in by a stored password.** Take a new realm whose settings name the attribute that stores passwords, to be
compared as they are, and find users by a search of the service, in a world without faults whose directory lets the
service in. Let the directory's answer to the search for a name refer to no other servers, and if it is a single entry,
let the full name of the entry be composed and the groups of that user be found without failure. Then there is a
principal exactly if the answer is a single entry and the first text of its password attribute is the presented
password. The principal has the user's name, and the roles that the entry lists, then the one that every user has, then
those of the groups. In every other case there is none, and nothing fails. -/
theorem login_by_stored_password {registry : Registry} {snapshot : Snapshot} {given : Option Matcher} {w : World}
    {realm : Realm} (hcreate : ((Realm.create registry snapshot given).perform w).1 = .ok realm)
    (hquiet : w.faults = []) (hmatcher : realm.matcher = .plain) (hconnector : realm.manager.connector = .standard)
    {h : Handle} (hsettings : h.settings = snapshot.settings)
    (hcompile : Templates.compile h.settings = .ok h.templates) {template : Template} {passwordName : String}
    (htemplate : h.templates.userSearch = some template) (hpattern : h.settings.userPattern = none)
    (hstored : h.settings.userPassword = some passwordName)
    (hservice : h.settings.userSearchAsUser = false) {name : String} {attempt : Int} {service : Value}
    (hin : w.directory.LetsIn realm.manager.tls h.settings name attempt service) {username : String}
    {password : Password} (husername : username ≠ "") (hpassword : password ≠ "") {response : Response}
    (hanswer : w.directory.search service (userRequest h.settings name attempt template username) = .ok response)
    (hcomplete : response.IsComplete)
    (hresolves : ∀ entry, response.entries = [entry] → ∃ user groups,
      w.directory.Resolves realm.manager.tls h name attempt username entry user groups) :
    ∃ value, ((Login.authenticate (some username) (some password)).perform realm).1 = .ok value ∧
      (value.isSome = true ↔
        ∃ entry, response.entries = [entry] ∧
          (Attributes.textsNamed entry.2 passwordName).head?.map .text = some password) ∧
      ∀ principal, value = some principal → ∃ entry user groups, response.entries = [entry] ∧
        w.directory.Resolves realm.manager.tls h name attempt username entry user groups ∧
        principal = ⟨username, h.settings.userRoleName.toList.flatMap (Attributes.textsNamed entry.2) ++
          h.settings.commonRole.toList ++ groups.map (·.name), .null⟩ := by
  -- the realm is new, so its settings are the active ones
  have hregular := Realm.Regular.of_create hquiet hcreate
  have hactive : realm.manager.active = snapshot := by
    obtain ⟨_, _, _, -, -, -, rfl⟩ := Realm.of_create_ok hcreate
    rfl
  obtain ⟨a, hvalue, ha⟩ := hregular.authenticate_answers husername hpassword
  rw [← hactive] at hsettings
  -- the value is that of a login over a new connection
  have ha := ha.ofHandle (uniform_authenticate realm.matcher username password) hsettings hcompile
  rw [hregular.sameDirectory, hconnector, hmatcher] at ha
  have hpatterns := Templates.userPatterns_of_compile hcompile hpattern
  refine ⟨_, hvalue, ?_⟩
  cases ha with
  | unopened houtcome =>
    rw [hin.connects] at houtcome
    cases houtcome
  | @opened ch hestablished hdirectory =>
    rw [← hdirectory] at hin hanswer hresolves ⊢
    by_cases hentries : ∃ entry, response.entries = [entry]
    · obtain ⟨entry, hentry⟩ := hentries
      obtain ⟨user, groups, huser⟩ := hresolves entry hentry
      obtain ⟨-, ⟨dn, hdn⟩, -⟩ := of_userOfEntry hstored huser.made
      rw [authenticate_stored hestablished hpatterns hstored hservice hin htemplate hanswer hcomplete hentry huser.made
        hdn (huser.found dn hdn)]
      -- the user is resolved, so the stored password decides
      split
      · rename_i hsame
        refine ⟨iff_of_true rfl ⟨entry, hentry, hsame⟩, fun principal hprincipal => ?_⟩
        cases hprincipal
        exact ⟨entry, user, groups, hentry, huser, rfl⟩
      · rename_i hother
        refine ⟨iff_of_false nofun ?_, nofun⟩
        rintro ⟨entry', hentry', hsame⟩
        cases hentry.symm.trans hentry'
        exact hother hsame
    · -- there is no single entry, and the login ends without a value
      have hlength : response.entries.length ≠ 1 := fun h => hentries (List.length_eq_one_iff.mp h)
      rw [authenticate_stored_of_others hestablished hpatterns hstored hservice hin htemplate hanswer hcomplete hlength]
      exact ⟨iff_of_false nofun fun ⟨entry, hentry, _⟩ => hentries ⟨entry, hentry⟩, nofun⟩

/-! ### A run -/

/-- Settings of a service that compares passwords with those that the entries list. -/
def Settings.comparing : Settings where
  connectionUrl := some "ldap://directory"
  connectionName := some "cn=service"
  connectionPassword := some "spruce"
  userSearch := some "(uid={0})"
  userPassword := some "userPassword"
  userRoleName := some "title"
  commonRole := some "members"
  roleSearch := some "(member={0})"
  roleName := some "cn"

def Handle.comparing : Handle where
  snapshot := ⟨0, .comparing⟩
  pooled := false
  templates :=
    { userSearch := some ⟨"(uid={0})", "(uid=".toList.map .literal ++ .slot 0 :: [.literal ')']⟩
      userPatterns := none, roleBase := none
      roleSearch := some ⟨"(member={0})", "(member=".toList.map .literal ++ .slot 0 :: [.literal ')']⟩ }

/-- The attributes of an entry, some of them under names in other case. -/
def Attributes.ofKeeper : Attributes :=
  [("USERPASSWORD", .list [.text "pearl", .text "coral"]), ("Title", .list [.text "keeper"])]

/-- A world in which the service finds one entry, and a group of it. -/
def World.comparing : World where
  directory :=
    { passwords := [("cn=service", "spruce")]
      entries := [("uid=ada", .ofKeeper)]
      answers := [("(uid=ada)", [.known "uid=ada"]),
        ("(member=uid=ada)", [.item (.entry "cn=birds" (some [("cn", .list [.text "birds"])]))])] }

/-- The user that the entry makes. -/
def User.keeper : User where
  username := some "ada"
  dn := some "uid=ada"
  password := some "pearl"
  roles := ["keeper"]

/-- The service is let in, the answer to its search is the entry, and the group of the user is found. -/
theorem World.comparing_ready :
    World.comparing.directory.LetsIn none .comparing "" 0 (.text "cn=service") ∧
    World.comparing.directory.search (.text "cn=service")
        (userRequest .comparing "" 0 ⟨"(uid={0})", "(uid=".toList.map .literal ++ .slot 0 :: [.literal ')']⟩ "ada") =
      .ok { items := [.entry "uid=ada" (some .ofKeeper)] } ∧
    World.comparing.directory.Resolves none .comparing "" 0 "ada" ("uid=ada", some .ofKeeper) .keeper
      [⟨"cn=birds", "birds"⟩] := by
  have houtcome : Connection.establishOutcome World.comparing.directory .standard none .comparing = .ok ("", 0) := by
    decide +kernel
  refine ⟨⟨houtcome, rfl⟩, rfl, by decide +kernel, fun dn hdn => ?_⟩
  obtain rfl : "uid=ada" = dn := Option.some.inj hdn
  -- a connection can be opened, and the group is found over it
  have hgroups : (((Connection.establish .standard none .comparing).perform .comparing).1.toOption.any fun c =>
      ((groupsOfUser .comparing .keeper "uid=ada" "ada").perform
        ⟨c, ((Connection.establish .standard none .comparing).perform .comparing).2⟩).1 =
          .ok [⟨"cn=birds", "birds"⟩]) = true := by decide +kernel
  obtain ⟨c, hopen, hgroups⟩ := exists_ok_of_any hgroups
  rw [← of_decide_eq_true hgroups]
  exact .of_establish rfl hopen _

/-- The stored password logs in, with all three kinds of roles. The second value of the attribute does not. -/
theorem keeper_logged_in :
    Templates.compile .comparing = .ok Handle.comparing.templates ∧
    ∃ realm, ((Realm.create {} ⟨0, .comparing⟩ none).perform .comparing).1 = .ok realm ∧
      ((Login.authenticate (some "ada") (some "pearl")).perform realm).1 =
        .ok (some ⟨"ada", ["keeper", "members", "birds"], .null⟩) ∧
      ((Login.authenticate (some "ada") (some "coral")).perform realm).1 = .ok none := by
  have hcompile : Templates.compile .comparing = .ok Handle.comparing.templates := by decide +kernel
  have hchosen : (((Realm.create {} ⟨0, .comparing⟩ none).perform .comparing).1.toOption.any fun realm =>
      realm.matcher = .plain ∧ realm.manager.connector = .standard ∧ realm.manager.tls.isNone) = true := by
    decide +kernel
  obtain ⟨realm, hcreate, hchosen⟩ := exists_ok_of_any hchosen
  obtain ⟨hmatcher, hconnector, htls⟩ := of_decide_eq_true hchosen
  have htls := Option.isNone_iff_eq_none.mp htls
  obtain ⟨hin, hanswer, hresolves⟩ := World.comparing_ready
  have hlogin (password : Password) (hpassword : password ≠ "") := login_by_stored_password hcreate rfl hmatcher
    hconnector (h := .comparing) rfl hcompile rfl rfl rfl rfl (htls ▸ hin) (by decide : "ada" ≠ "") hpassword hanswer
    ⟨by simp [ResponseItem.isReference], by decide⟩
    fun entry hentry => ⟨.keeper, _, by cases hentry; rw [htls]; exact hresolves⟩
  refine ⟨hcompile, realm, hcreate, ?_, ?_⟩
  · -- the roles of the entry, of everybody and of the groups, in this order
    obtain ⟨value, hvalue, hgranted, hprincipal⟩ := hlogin "pearl" (by decide)
    obtain ⟨principal, rfl⟩ := Option.isSome_iff_exists.mp (hgranted.mpr ⟨_, rfl, by decide +kernel⟩)
    obtain ⟨entry, user, groups, hentry, huser, rfl⟩ := hprincipal principal rfl
    cases hentry
    obtain ⟨rfl, rfl⟩ := huser.unique rfl (htls ▸ hresolves)
    rw [hvalue]
    rfl
  · -- the other password is not the stored one
    obtain ⟨value, hvalue, hgranted, -⟩ := hlogin "coral" (by decide)
    have hnone : ¬ value.isSome = true := fun hsome => by
      obtain ⟨entry, hentry, hstored⟩ := hgranted.mp hsome
      cases hentry
      exact absurd hstored (by decide +kernel)
    rw [hvalue, Option.not_isSome_iff_eq_none.mp hnone]

end DirectoryLogin

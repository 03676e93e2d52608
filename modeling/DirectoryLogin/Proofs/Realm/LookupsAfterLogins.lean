import DirectoryLogin.Proofs.Realm.EncryptedConnections
import DirectoryLogin.Proofs.Realm.StoredPasswords
import DirectoryLogin.Proofs.Users.Lookups
/-!
# Lookups after a Login

Where passwords are stored, a realm can be asked for the password of a user, and for the principal of a user who was
authenticated elsewhere. After a login both should come to what the login has come to. They do where users are found by
a search. Where they are found by patterns, the lookups go through the patterns by a loop of their own, and a pattern
whose name cannot be read ends it, where the login has gone on.

- `Realm.LookupsAgree`: the lookups come to a password and to these roles.
- `Realm.Regular.lookupsAgree_iff`: what they come to is a matter of one connection of the service.
- `lookups_after_login`: when the lookups agree with a login.
- `unreadable_name_hides_user`: a run in which they do not.
-/

namespace DirectoryLogin

/-! ## §1 What calls leave behind -/

namespace Login

theorem answer_stays {α : Type} (description : String) {x : Handle → Exchange (Option α)} (hx : Exchange.Uniform x) :
    (onManager (Managed.answer description x)).Respects (Realm.Manages Manager.Stays) :=
  onManager_manages (Managed.answer_stays fun h => (hx.orderly h).serves)

theorem say_stays (level : Level) (text : String) : (say level text).Respects (Realm.Manages Manager.Stays) :=
  onManager_manages (Managed.onWorld_stays fun _ => rfl)

end Login

namespace Realm

/-- Asked for the password and then for the principal of a user, the realm gives this password, and a principal with
these roles. -/
def LookupsAgree (r : Realm) (username : String) (password : Password) (roles : List String) : Prop :=
  ((Login.getPassword (some username)).perform r).1 = .ok (some password) ∧
    ∃ q, ((Login.getPrincipal (some username) .null).perform
      ((Login.getPassword (some username)).perform r).2).1 = .ok (some q) ∧ q.roles = roles

namespace Regular

variable {given : Option Matcher} {registry : Registry} {d : Directory} {r r' : Realm} {h : Handle} {ch : Channel}
  {username : String} {password : Password} {roles : List String}

/-- After a login the realm is regular, and its settings are the same. -/
theorem after_authenticate (hr : Regular given registry d r) (username : Option String) (password : Option Password) :
    Regular given registry d ((Login.authenticate username password).perform r).2 ∧
      ((Login.authenticate username password).perform r).2.settings = r.settings := by
  have hstays := Login.authenticate_respects Login.answer_stays Login.say_stays username password r
  exact ⟨Login.authenticate_respects Login.answer_staysRegular Login.say_staysRegular username password _ _ _ _ hr,
    congrArg Snapshot.settings hstays.active⟩

/-- After a lookup of a password too. -/
theorem after_getPassword (hr : Regular given registry d r) (username : Option String) :
    Regular given registry d ((Login.getPassword username).perform r).2 ∧
      ((Login.getPassword username).perform r).2.settings = r.settings := by
  have hstays := Login.getPassword_respects Login.answer_stays username r
  exact ⟨Login.getPassword_respects Login.answer_staysRegular username _ _ _ _ hr,
    congrArg Snapshot.settings hstays.active⟩

/-! ## §2 Lookups over a connection -/

/-- Whatever a regular realm for the same settings is asked, is what the program comes to over any connection. -/
theorem result_answer {α : Type} (hr : Regular given registry d r) (hr' : Regular given registry d r')
    (hsame : r'.settings = r.settings) (hsettings : h.settings = r.settings)
    (hcompile : Templates.compile h.settings = .ok h.templates)
    (hestablished : Connection.Established r.manager.connector r.manager.tls h.settings ch)
    (hdirectory : ch.world.directory = d) (description : String) {x : Handle → Exchange (Option α)}
    (hx : Exchange.Uniform x) :
    ((Login.onManager (Managed.answer description x)).perform r').1 = .ok ((x h).perform ch).1.toOption.join := by
  obtain ⟨a, m, hrun, -, -, ha⟩ := Managed.answer_run description hx hr'.manager hr'.unlocked
  have ha := (ha.alike hr'.manager hr.manager (hr.alike hr' hsame).symm).ofHandle hx hsettings hcompile
  rw [hr.sameDirectory, ← hdirectory] at ha
  rw [← ha.unique (hx.orderly h) (.opened hestablished rfl)]
  exact congrArg Prod.fst hrun

/-- A value that is reported is the value of the program. -/
theorem reported_eq_some {α : Type} {a : Except Failure (Option α)} {v : α} :
    (.ok a.toOption.join : Except Failure (Option α)) = .ok (some v) ↔ a = .ok (some v) := by
  rcases a with e | _ | v'
  · exact iff_of_false nofun nofun
  · exact Iff.rfl
  · exact Iff.rfl

/-- **The lookups of a regular realm** are those over any connection for its settings. -/
theorem lookupsAgree_iff (hr : Regular given registry d r) (hr' : Regular given registry d r')
    (hsame : r'.settings = r.settings) (hsettings : h.settings = r.settings)
    (hcompile : Templates.compile h.settings = .ok h.templates)
    (hestablished : Connection.Established r.manager.connector r.manager.tls h.settings ch)
    (hdirectory : ch.world.directory = d) {passwordName : String}
    (hstored : h.settings.userPassword = some passwordName) (husername : username ≠ "") :
    r'.LookupsAgree username password roles ↔ Exchange.LookupsAgree h username password roles ch := by
  -- the look-up of the password leaves the realm regular for the next one
  obtain ⟨hr'', hsame'⟩ := hr'.after_getPassword (some username)
  have hpassword : ((Login.getPassword (some username)).perform r').1 =
      .ok ((Exchange.storedPassword h (some username)).perform ch).1.toOption.join := by
    have hstores : r'.settings.userPassword.isNone = false := by rw [hsame, ← hsettings, hstored]; rfl
    rw [Login.getPassword, Session.perform_bind_of_ok (Session.perform_get r'), hstores]
    exact hr.result_answer hr' hsame hsettings hcompile hestablished hdirectory _
      (Exchange.uniform_storedPassword (some username))
  have hknown := hr.result_answer hr'' (hsame'.trans hsame) hsettings hcompile hestablished hdirectory
    "principal lookup" (Exchange.uniform_knownPrincipal username .null)
  have hname := Login.nonEmpty?_some husername
  -- agreement of the realm is agreement of the two programs that it runs
  rw [LookupsAgree, hpassword, reported_eq_some]
  simp only [Login.getPrincipal, hname, hknown, reported_eq_some]
  exact ⟨fun h => ⟨h.1, h.2⟩, fun h => ⟨h.password, h.roles⟩⟩

end Regular

end Realm

/-! ## §3 The theorem -/

open Exchange

/-- **Lookups after a login.** Take a new realm that compares presented passwords with stored ones as they are, in a
world without faults whose directory lets the service in and guards nothing against it, and let a user log in. If users
are found by a search of the service, the lookups of the user agree with the login: they give the password that was
presented, and a principal with the same roles. If users are found by patterns, some of them were passed, and the next
one has logged the user in. Then the lookups agree with the login exactly if looking up each of the patterns that were
passed finds no entry, and nothing goes wrong. So they do not agree if one of these was passed because a name cannot be
read. -/
theorem lookups_after_login {registry : Registry} {snapshot : Snapshot} {given : Option Matcher} {w : World}
    {realm realm' : Realm} (hcreate : ((Realm.create registry snapshot given).perform w).1 = .ok realm)
    (hquiet : w.faults = []) (hmatcher : realm.matcher = .plain) (hconnector : realm.manager.connector = .standard)
    {h : Handle} (hsettings : h.settings = snapshot.settings)
    (hcompile : Templates.compile h.settings = .ok h.templates) {passwordName : String}
    (hstored : h.settings.userPassword = some passwordName)
    (hservice : h.settings.userSearchAsUser = false) {name : String} {attempt : Int} {service : Value}
    (hin : w.directory.LetsIn realm.manager.tls h.settings name attempt service) (hopen : w.directory.OpenTo service)
    {username : String} {password : Password} (husername : username ≠ "") (hpassword : password ≠ "")
    {p : Principal Value}
    (hlogin : (Login.authenticate (some username) (some password)).perform realm = (.ok (some p), realm')) :
    (h.templates.userPatterns = none → realm'.LookupsAgree username password p.roles) ∧
    ∀ patterns, h.templates.userPatterns = some patterns → h.templates.userSearch = none →
      ∃ k < patterns.length,
        (∀ j < k, Connection.Answers w.directory .standard realm.manager.tls h.settings
          (tryPattern h .plain username password j) (.ok .unresolved)) ∧
        (∃ g, Connection.Answers w.directory .standard realm.manager.tls h.settings
          (tryPattern h .plain username password k) (.ok (.accepted g)) ∧ g.principal = p) ∧
        (realm'.LookupsAgree username password p.roles ↔
          ∀ j < k, Connection.Answers w.directory .standard realm.manager.tls h.settings
            (getUser h (some username) none j) (.ok none)) := by
  have hregular := Realm.Regular.of_create hquiet hcreate
  have hactive : h.settings = realm.settings := by
    obtain ⟨_, _, _, -, -, -, rfl⟩ := Realm.of_create_ok hcreate
    exact hsettings
  obtain ⟨hregular', hsame⟩ := hregular.after_authenticate (some username) (some password)
  rw [hlogin] at hregular' hsame
  obtain ⟨a, hvalue, ha⟩ := hregular.authenticate_answers husername hpassword
  rw [hlogin] at hvalue
  obtain ⟨g, hjoin, rfl⟩ := Option.map_eq_some_iff.mp (Except.ok.inj hvalue).symm
  obtain rfl := Realm.Regular.reported_eq_some.mp (congrArg Except.ok hjoin)
  -- the login has run over some connection, and so might the lookups have done
  have ha := ha.ofHandle (uniform_authenticate realm.matcher username password) hactive hcompile
  rw [hregular.sameDirectory, hconnector, hmatcher] at ha
  generalize hresult : (Except.ok (some g) : Except Failure (Option Grant)) = result at ha
  cases ha with
  | unopened => cases hresult
  | @opened ch hestablished hdirectory =>
    have hgranted := hresult.symm
    have hagree {roles : List String} : realm'.LookupsAgree username password roles ↔
        Exchange.LookupsAgree h username password roles ch :=
      hregular.lookupsAgree_iff hregular' hsame hactive hcompile (hconnector ▸ hestablished) hdirectory hstored
        husername
    rw [← hdirectory] at hin hopen
    refine ⟨fun hpatterns => hagree.mpr (lookupsAgree_of_search hestablished hstored hservice hpatterns hgranted),
      fun patterns hpatterns hsearch => ?_⟩
    have hreads : h.settings.attributeIds ≠ [] := by
      intro hnone
      rw [Settings.attributeIds, List.filterMap_eq_nil_iff] at hnone
      exact nomatch hstored.symm.trans (hnone _ List.mem_cons_self)
    rw [authenticate, hpatterns] at hgranted
    obtain ⟨k, hk, hpassed, haccepted⟩ := of_authenticateByPatterns hestablished hreads hgranted
    simp only [Nat.zero_add] at hpassed haccepted
    have hrun := tryPattern_run (h := h) hestablished hstored hpatterns hin hopen username password
    refine ⟨k, hk, fun j hj => ?_, ⟨g, ?_, rfl⟩, ?_⟩
    · rw [← hdirectory, hestablished.answers_iff .tryPattern]
      exact hpassed j hj
    · rw [← hdirectory, hestablished.answers_iff .tryPattern]
      exact haccepted
    · rw [hagree, lookupsAgree_iff hestablished hsearch hpatterns hk (fun j hj => hpassed j hj ▸ hrun j)
        (haccepted ▸ hrun k)]
      simp only [← hdirectory, hestablished.answers_iff .getUser, lookupAt]

/-! ### Two units -/

/-- Settings that compare stored passwords, with two patterns. -/
def Settings.byUnit : Settings where
  connectionUrl := some "ldap://directory"
  userPattern := some "(uid=\x7b0\x7d,ou=day)(uid=\x7b0\x7d,ou=night)"
  userPassword := some "userPassword"

def Handle.byUnit : Handle where
  snapshot := ⟨0, .byUnit⟩
  pooled := false
  templates := ⟨none, Handle.withTwoPatterns.templates.userPatterns, none, none⟩

/-- A world with one user, in the second unit. These names are malformed in it. -/
def World.byUnit (malformed : List String) : World where
  directory :=
    { entries := [("uid=ada,ou=night", [("userPassword", .list [.text "pearl"])])]
      malformed := malformed }

/-- The service is anonymous, is let in and may read everything. -/
theorem World.byUnit_ready (malformed : List String) (h : malformed = [] ∨ malformed = ["uid=ada,ou=day"]) :
    (World.byUnit malformed).directory.LetsIn none .byUnit "" 0 .null ∧
      (World.byUnit malformed).directory.OpenTo .null := by
  refine ⟨⟨?_, rfl⟩, fun _ hmem => absurd hmem List.not_mem_nil⟩
  rcases h with rfl | rfl
  · decide +kernel
  · decide +kernel

/-- Looking up the first unit finds no entry, where no name is malformed. -/
theorem World.byUnit_missing : Connection.Answers (World.byUnit []).directory .standard none .byUnit
    (getUser .byUnit (some "ada") none (0 : Nat)) (.ok none) := by
  have hmissing : (((Connection.establish .standard none .byUnit).perform (.byUnit [])).1.toOption.any fun c =>
      lookupAt .byUnit "ada" ⟨c, ((Connection.establish .standard none .byUnit).perform (.byUnit [])).2⟩ 0 =
        .ok none) = true := by decide +kernel
  obtain ⟨c, hopen, hmissing⟩ := exists_ok_of_any hmissing
  rw [← of_decide_eq_true hmissing]
  exact .of_establish rfl hopen _

/-- The first unit has no entry for the user, so the lookups find the one that has logged in. -/
theorem missing_name_passed :
    ∃ realm realm' p, ((Realm.create {} ⟨0, .byUnit⟩ none).perform (.byUnit [])).1 = .ok realm ∧
      (Login.authenticate (some "ada") (some "pearl")).perform realm = (.ok (some p), realm') ∧
      realm'.LookupsAgree "ada" "pearl" p.roles := by
  have hcompile : Templates.compile Handle.byUnit.settings = .ok Handle.byUnit.templates := by decide +kernel
  have hrun : (((Realm.create {} ⟨0, .byUnit⟩ none).perform (.byUnit [])).1.toOption.any fun realm =>
      realm.matcher = .plain ∧ realm.manager.connector = .standard ∧ realm.manager.tls.isNone ∧
        ((Login.authenticate (some "ada") (some "pearl")).perform realm).1.toOption.join.isSome) = true := by
    decide +kernel
  obtain ⟨realm, hcreate, hrun⟩ := exists_ok_of_any hrun
  obtain ⟨hmatcher, hconnector, htls, hlogin⟩ := of_decide_eq_true hrun
  have htls := Option.isNone_iff_eq_none.mp htls
  obtain ⟨p, hp⟩ := Option.isSome_iff_exists.mp hlogin
  have hlogin : (Login.authenticate (some "ada") (some "pearl")).perform realm =
      (.ok (some p), ((Login.authenticate (some "ada") (some "pearl")).perform realm).2) :=
    Prod.ext (Realm.Regular.reported_eq_some.mp (congrArg Except.ok hp)) rfl
  obtain ⟨hin, hopen⟩ := World.byUnit_ready [] (.inl rfl)
  obtain ⟨-, hbyPattern⟩ := lookups_after_login (h := .byUnit) hcreate rfl hmatcher hconnector rfl hcompile rfl rfl
    (htls ▸ hin) hopen (by decide) (by decide) hlogin
  obtain ⟨k, hk, -, -, hagree⟩ := hbyPattern _ rfl rfl
  refine ⟨realm, _, p, hcreate, hlogin, hagree.mpr fun j hj => ?_⟩
  -- there is only one pattern that may have been passed
  obtain rfl : j = 0 := by
    have hk : k < 2 := hk
    omega
  rw [htls]
  exact World.byUnit_missing

/-- The first unit has a malformed name for the user. The login goes on behind it, but the lookups end there: there is
neither the password that was presented nor a principal, although the service may read everything. -/
theorem unreadable_name_hides_user :
    Templates.compile .byUnit = .ok Handle.byUnit.templates ∧
      (World.byUnit ["uid=ada,ou=day"]).directory.LetsIn none .byUnit "" 0 .null ∧
      (World.byUnit ["uid=ada,ou=day"]).directory.OpenTo .null ∧
      ∃ realm realm' p, ((Realm.create {} ⟨0, .byUnit⟩ none).perform (.byUnit ["uid=ada,ou=day"])).1 = .ok realm ∧
        realm.matcher = .plain ∧
        (Login.authenticate (some "ada") (some "pearl")).perform realm = (.ok (some p), realm') ∧
        p.username = "ada" ∧
        ((Login.getPassword (some "ada")).perform realm').1 = .ok none ∧
        ((Login.getPrincipal (some "ada") .null).perform
          ((Login.getPassword (some "ada")).perform realm').2).1.toOption.join.isNone ∧
        ¬ realm'.LookupsAgree "ada" "pearl" p.roles := by
  obtain ⟨hin, hopen⟩ := World.byUnit_ready ["uid=ada,ou=day"] (.inr rfl)
  refine ⟨by decide +kernel, hin, hopen, ?_⟩
  have hrun : (((Realm.create {} ⟨0, .byUnit⟩ none).perform (.byUnit ["uid=ada,ou=day"])).1.toOption.any fun realm =>
      let logged := (Login.authenticate (some "ada") (some "pearl")).perform realm
      let looked := (Login.getPassword (some "ada")).perform logged.2
      realm.matcher = .plain ∧ logged.1.toOption.join.any (·.username = "ada") ∧ looked.1 = .ok none ∧
        ((Login.getPrincipal (some "ada") .null).perform looked.2).1.toOption.join.isNone) = true := by
    decide +kernel
  -- the login gives a principal, and the password cannot be looked up after it
  obtain ⟨realm, hcreate, hrun⟩ := exists_ok_of_any hrun
  obtain ⟨hmatcher, hlogin, hpassword, hknown⟩ := of_decide_eq_true hrun
  obtain ⟨p, hp, hname⟩ := (Option.any_eq_true _ _).mp hlogin
  have hlogin : (Login.authenticate (some "ada") (some "pearl")).perform realm =
      (.ok (some p), ((Login.authenticate (some "ada") (some "pearl")).perform realm).2) :=
    Prod.ext (Realm.Regular.reported_eq_some.mp (congrArg Except.ok hp)) rfl
  refine ⟨realm, _, p, hcreate, hmatcher, hlogin, of_decide_eq_true hname, hpassword, hknown, fun hagree => ?_⟩
  exact nomatch hpassword.symm.trans hagree.1

end DirectoryLogin

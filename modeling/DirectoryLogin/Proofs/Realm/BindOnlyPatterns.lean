import DirectoryLogin.Proofs.Realm.DecidingPatterns
import DirectoryLogin.Proofs.Realm.FirstCalls
import DirectoryLogin.Proofs.Realm.HistoryIndependence
import DirectoryLogin.Proofs.Templates
import DirectoryLogin.Proofs.Text.Unescaping
import DirectoryLogin.Proofs.Transcript
import DirectoryLogin.Proofs.Users.BindVerdicts
/-!
# Logging in by Binds Alone

Where no attribute is read and no roles are searched for, the entries of users are never looked at. A pattern gives a
name, and the bind with this name and the presented password says whether there is such a user. A rejected bind says
nothing about the patterns behind, so these are tried as well, up to the first one that is accepted.

- `Channel.BindsWithin`: which binds were sent between two states of a connection.
- `Exchange.tryPattern_of_bindsOnly`: one pattern is one bind.
- `Exchange.authenticateByPatterns_of_bindsOnly`: the loop finds the first pattern whose bind is accepted.
- `Realm.bind_only_login`: so does the first login of a new realm.
-/

namespace DirectoryLogin

/-! ## §1 Binds on the record -/

/-- The simple bind with a name and a password. -/
def BindRequest.simple (dn : String) (password : Password) : BindRequest where
  user := .text dn
  password := password.value
  authentication := .simple

/-- The binds among some events, in order. -/
def Event.binds (events : List Event) : List BindRequest :=
  events.filterMap (·.request.bind?)

namespace Channel

/-- Between the two states nothing but these binds was sent by way of binds, each at most once and in this order. -/
structure BindsWithin (binds : List BindRequest) (ch ch' : Channel) : Prop where
  events : ∃ events, ch'.world.events = ch.world.events ++ events ∧ (Event.binds events).Sublist binds

namespace BindsWithin

variable {binds binds' : List BindRequest} {ch ch' ch'' : Channel}

/-- Nothing was sent. -/
theorem of_events (h : ch'.world.events = ch.world.events) : BindsWithin binds ch ch' :=
  ⟨[], by rw [h, List.append_nil], List.nil_sublist _⟩

/-- One request was sent. -/
theorem of_event {e : Event} (h : ch'.world.events = ch.world.events ++ [e]) :
    BindsWithin e.request.bind?.toList ch ch' := by
  refine ⟨[e], h, ?_⟩
  rw [Event.binds, List.filterMap_cons]
  rcases e.request.bind? with _ | r
  · exact .refl _
  · exact .refl _

theorem trans (h : BindsWithin binds ch ch') (g : BindsWithin binds' ch' ch'') :
    BindsWithin (binds ++ binds') ch ch'' := by
  obtain ⟨events, hevents, hbinds⟩ := h
  obtain ⟨events', hevents', hbinds'⟩ := g
  refine ⟨events ++ events', by rw [hevents', hevents, List.append_assoc], ?_⟩
  rw [Event.binds, List.filterMap_append]
  exact hbinds.append hbinds'

end BindsWithin

end Channel

namespace Exchange

open Channel

variable {ch : Channel} {r : BindRequest}

/-- Binding sends the request for the identity, or nothing. -/
theorem bind_bindsWithin (hrequest : BindRequest.ofEnvironment ch.connection.environment = .ok r) :
    BindsWithin [r] ch (bind.perform ch).2 := by
  rcases hresult : bind.perform ch with ⟨result, ch'⟩
  have hrun := bind_run ch
  rw [hresult] at hrun
  cases hrun with
  -- no bind is sent by a connection that is bound, or when none can be built
  | skipped => exact .of_events rfl
  | unsupported => exact .of_events rfl
  | accepted _ q w hq hanswer =>
    -- the one that is sent is the one of the environment
    obtain rfl := Except.ok.inj (hrequest.symm.trans hq)
    obtain ⟨user, -, rfl⟩ := World.of_bindWire_accepted hanswer
    exact .of_event (e := ⟨ch.connection.wire, .bind r⟩) (by simp)
  | refused _ q _ w _ hq hanswer hfalse =>
    obtain rfl := Except.ok.inj (hrequest.symm.trans hq)
    obtain rfl := World.of_bindWire_refused hanswer hfalse
    exact .of_event (e := ⟨ch.connection.wire, .bind r⟩) (by simp)

/-- Reading sends no other bind than the one for the identity. -/
theorem read_bindsWithin (hrequest : BindRequest.ofEnvironment ch.connection.environment = .ok r) (dn : String)
    (names : Option (List String)) : BindsWithin [r] ch ((read dn names).perform ch).2 := by
  have hbind := bind_bindsWithin hrequest
  rw [read_eq]
  rcases hrun : bind.perform ch with ⟨e | _, ch₁⟩
  · -- the bind has failed, and nothing is read
    rw [Session.perform_bind_of_error hrun]
    rw [hrun] at hbind
    exact hbind
  · rw [Session.perform_bind_of_ok hrun]
    rw [hrun] at hbind
    obtain ⟨faults, -, hstate⟩ := readBound_state dn names ch₁
    -- the query is not a bind
    have hquery : (readQuery ch₁.connection dn names).bind? = none := by
      unfold readQuery
      cases ch₁.connection.kind <;> rfl
    -- reading after the bind adds nothing but the query
    have hread : BindsWithin (readQuery ch₁.connection dn names).bind?.toList ch₁
        ((readBound dn names).perform ch₁).2 :=
      .of_event (e := ⟨ch₁.connection.wire, readQuery ch₁.connection dn names⟩) (by rw [hstate]; rfl)
    rw [hquery] at hread
    exact hbind.trans hread

/-- A check sends no other bind than the one for the name and the password. -/
theorem verifyByBind_bindsWithin {s : Settings} {user : User} {dn : String} {password : Password}
    (hsimple : s.BindsSimply) (htidy : ch.connection.environment.TidyButIdentity s) (hdn : user.dn = some dn)
    (hname : dn ≠ "") (hpassword : password ≠ "") :
    BindsWithin [.simple dn password] ch ((verifyByBind s user (some password)).perform ch).2 := by
  have hrequest : BindRequest.ofEnvironment (ch.connection.environment.forCheck (some dn) (some password)) =
      .ok (.simple dn password) := by
    rw [BindRequest.ofEnvironment_eq_ofIdentity, Environment.identity_forCheck hsimple htidy]
    exact BindRequest.ofIdentity_loginIdentity hsimple (fun h => hname h.2) password
  -- the environment is not on the record, and neither is what becomes of the read
  obtain ⟨events, hevents, hbinds⟩ : BindsWithin [.simple dn password]
      (ch.withEnvironment (ch.connection.environment.forCheck (some dn) (some password)))
      ((read "" none).perform (ch.withEnvironment (ch.connection.environment.forCheck (some dn) (some password)))).2 :=
    read_bindsWithin hrequest "" none
  rw [verifyByBind_eq_of_given hdn hpassword]
  refine ⟨events, ?_, hbinds⟩
  change (checkBound.perform _).2.world.events = _
  rw [state_checkBound]
  exact hevents

end Exchange

/-! ## §2 One pattern -/

/-- A pattern with a slot for the user name gives a name. -/
theorem Template.nameOf_ne_empty {t : Template} (hslot : .slot 0 ∈ t.pieces) {username : String}
    (husername : username ≠ "") : t.nameOf username ≠ "" := by
  refine t.fill_ne_empty hslot rfl fun hempty => husername ?_
  have hback := Name.unescape?_escapeValue username
  rw [hempty] at hback
  exact (Option.some.inj hback).symm

/-- The directory accepts the password for the name that a pattern gives the user. -/
def Directory.acceptsLogin (d : Directory) (username : String) (password : Password) (t : Template) : Bool :=
  (d.checkPassword (.text (t.nameOf username)) password.value).isOk

theorem Directory.acceptsLogin_iff {d : Directory} {username : String} {password : Password} {t : Template} :
    d.acceptsLogin username password t = true ↔
      d.checkPassword (.text (t.nameOf username)) password.value = .ok () :=
  isOk_checkPassword_iff

/-- Users are found by these patterns, nothing is read of their entries, and roles are not searched for. -/
structure Handle.BindsOnly (h : Handle) (patterns : List Template) : Prop where
  found : h.templates.userPatterns = some patterns
  slots : ∀ t ∈ patterns, .slot 0 ∈ t.pieces
  simple : h.settings.BindsSimply
  unread : h.settings.attributeIds = []
  unsearched : h.templates.roleSearch = none ∨ h.settings.roleName = none

/-- A connection of the service to a directory whose names are not below a path, without faults. -/
structure Channel.AtRoot (s : Settings) (d : Directory) (ch : Channel) : Prop where
  tidy : ch.connection.environment.TidyButIdentity s
  quiet : ch.world.faults = []
  honest : ch.Honest
  kind : ch.connection.kind = .standard
  root : ch.connection.namespaceName = ""
  directory : ch.world.directory = d
  ordinary : d.fixedResponse = none

/-- It stays one. -/
theorem Channel.Serves.atRoot {s : Settings} {d : Directory} {ch ch' : Channel} (h : Channel.Serves s ch ch')
    (hroot : ch.AtRoot s d) : ch'.AtRoot s d where
  tidy := h.environment.tidyButIdentity hroot.tidy
  quiet := h.world.quiet hroot.quiet
  honest := h.honest hroot.honest
  kind := h.kind.trans hroot.kind
  root := h.namespaceName.trans hroot.root
  directory := h.world.directory.trans hroot.directory
  ordinary := hroot.ordinary

/-- A new connection is one, where the directory is reached under a URL without a path. -/
theorem Channel.AtRoot.of_establish {policy : Option TlsArguments} {s : Settings} {w w' : World} {c : Connection}
    {attempt : Int} (hquiet : w.faults = []) (hordinary : w.directory.fixedResponse = none)
    (hreached : Connection.establishOutcome w.directory .standard policy s = .ok ("", attempt))
    (hopen : (Connection.establish .standard policy s).perform w = (.ok c, w')) :
    AtRoot s w.directory ⟨c, w'⟩ := by
  obtain ⟨tried, w₀, htried, -, hopened⟩ := Connection.establish_opened hopen
  obtain ⟨hestablished, hdirectory⟩ := Connection.established_of_establish hquiet hopen
  obtain ⟨_, houtcome, -⟩ := hestablished.outcome
  rw [hdirectory, hreached] at houtcome
  refine ⟨?_, hestablished.quiet, hestablished.honest, hestablished.kind, ?_, hdirectory, hordinary⟩
  · exact (Environment.tidy_iff.mp ⟨tried, htried, hopened.environment⟩).1
  · exact (Prod.mk.inj (Except.ok.inj houtcome)).1.symm

namespace Exchange

open Channel

variable {h : Handle} {m : Matcher} {username : String} {password : Password} {patterns : List Template} {d : Directory}
  {ch : Channel}

/-- The user of a pattern, of whom nothing is known but the name. -/
def userOfName (t : Template) (username : String) (password : Password) : User where
  username := some username
  dn := some (t.nameOf username)
  password := some password

/-- What a user is granted whose bind was accepted. -/
def grantOfName (s : Settings) (username : String) (password : Password) (t : Template) : Grant where
  user := userOfName t username password
  principal := ⟨username, s.commonRole.toList, .null⟩

/-- Without attributes to read, no password is read either. -/
theorem userPassword_of_unread {s : Settings} (hunread : s.attributeIds = []) : s.userPassword = none := by
  rw [Settings.attributeIds, List.filterMap_eq_nil_iff] at hunread
  exact hunread _ List.mem_cons_self

/-- **The user of a pattern** is made without a request. -/
theorem getUser_of_bindsOnly (hbinds : h.BindsOnly patterns) {i : Nat} {t : Template} (ht : patterns[i]? = some t) :
    getUser h (some username) (some password) i = pure (some (userOfName t username password)) := by
  have hat : patternAt patterns i = .ok (some t) := by
    rw [patternAt, if_pos (Int.natCast_nonneg i), Int.toNat_natCast, ht]
  have hkept : keepPassword h.settings (some password) { username := some username, dn := some (t.nameOf username) } =
      userOfName t username password := by
    rw [keepPassword, userPassword_of_unread hbinds.unread]
    rfl
  rw [getUser_eq_byPattern hbinds.found]
  simp only [userByPattern, hbinds.found, hat, hbinds.unread]
  refine Session.ext fun ch => ?_
  change (Except.ok (some (keepPassword h.settings (some password) _)), ch) = _
  exact congrArg (fun user => (Except.ok (some user), ch)) hkept

/-- The roles of such a user are those that every user has. -/
theorem principalOf_of_bindsOnly (hbinds : h.BindsOnly patterns) (t : Template) :
    principalOf h username (userOfName t username password) =
      pure (grantOfName h.settings username password t).principal := by
  rw [principalOf, rolesOf]
  refine Session.ext fun ch => ?_
  rcases hbinds.unsearched with hnone | hnone
  · simp [userOfName, grantOfName, hnone]
  · simp [userOfName, grantOfName, hnone]

/-- **One pattern is one bind**: it is accepted or rejected as the directory accepts the password or not. -/
theorem tryPattern_of_bindsOnly (hbinds : h.BindsOnly patterns) (hroot : ch.AtRoot h.settings d)
    (husername : username ≠ "") (hpassword : password ≠ "") {i : Nat} {t : Template} (ht : patterns[i]? = some t) :
    ∃ ch', ch'.AtRoot h.settings d ∧ ch.BindsWithin [.simple (t.nameOf username) password] ch' ∧
      (tryPattern h m username password i).perform ch =
        (.ok (if d.acceptsLogin username password t then .accepted (grantOfName h.settings username password t)
          else .rejected), ch') := by
  -- the pattern gives a name, so the check sends the one bind for it
  have hname := t.nameOf_ne_empty (hbinds.slots t (List.mem_of_getElem? ht)) husername
  have hdn : (userOfName t username password).dn = some (t.nameOf username) := rfl
  have hserves : Channel.Serves h.settings ch
      ((verifyByBind h.settings (userOfName t username password) (some password)).perform ch).2 :=
    Orderly.verifyByBind.serves ch
  have hbound := verifyByBind_bindsWithin hbinds.simple hroot.tidy hdn hname hpassword
  -- below the root the own entry is always shown, so the verdict is that of the directory
  have hverdict := (verifyByBind_verdict hbinds.simple hroot.tidy hroot.quiet hroot.honest hroot.kind
    (hroot.directory ▸ hroot.ordinary) hdn hname hpassword).eq_of_shows (.inl hroot.root)
  rw [hroot.directory] at hverdict
  rcases hrun : (verifyByBind h.settings (userOfName t username password) (some password)).perform ch with
    ⟨verdict, ch'⟩
  rw [hrun] at hserves hbound hverdict
  refine ⟨ch', hserves.atRoot hroot, hbound, ?_⟩
  -- a verdict of yes grants the name, since no roles are looked for
  have hauthenticate : (authenticateUser h m username password (userOfName t username password)).perform ch =
      (.ok (if d.acceptsLogin username password t then some (grantOfName h.settings username password t) else none),
        ch') := by
    have hstored : h.settings.userPassword.isNone = true := by rw [userPassword_of_unread hbinds.unread]; rfl
    cases hverdict
    rw [authenticateUser, verify, if_pos hstored, Session.perform_bind_of_ok hrun, principalOf_of_bindsOnly hbinds]
    change _ = (Except.ok (if (d.checkPassword (.text (t.nameOf username)) password.value).isOk then _ else _), ch')
    split <;> rfl
  -- the user is made from the pattern alone
  have huser : (getUser h (some username) (some password) i).perform ch =
      (.ok (some (userOfName t username password)), ch) := by rw [getUser_of_bindsOnly hbinds ht]; rfl
  rw [tryPattern_of_user huser, hauthenticate]
  cases d.acceptsLogin username password t <;> rfl

/-! ## §3 The loop over the patterns -/

/-- The patterns that are tried: those in front of the first accepted one, and that one. -/
def triedPatterns (d : Directory) (username : String) (password : Password) (patterns : List Template) :
    List Template :=
  patterns.take (patterns.findIdx (d.acceptsLogin username password) + 1)

theorem triedPatterns_cons (d : Directory) (username : String) (password : Password) (t : Template)
    (rest : List Template) :
    triedPatterns d username password (t :: rest) =
      t :: if d.acceptsLogin username password t then [] else triedPatterns d username password rest := by
  rw [triedPatterns, List.findIdx_cons, List.take_succ_cons]
  cases d.acceptsLogin username password t <;> rfl

/-- **The loop over the patterns** finds the first one that is accepted, and sends no bind for the patterns behind. -/
theorem authenticateByPatterns_of_bindsOnly (hbinds : h.BindsOnly patterns) (hroot : ch.AtRoot h.settings d)
    (husername : username ≠ "") (hpassword : password ≠ "") {i : Nat} {rest : List Template}
    (hrest : patterns.drop i = rest) :
    ∃ ch', ch.BindsWithin
        ((triedPatterns d username password rest).map fun t => .simple (t.nameOf username) password) ch' ∧
      (authenticateByPatterns h m username password i rest).perform ch =
        (.ok ((rest.find? (d.acceptsLogin username password)).map (grantOfName h.settings username password)),
          ch') := by
  induction rest generalizing i ch with
  | nil => exact ⟨ch, .of_events rfl, rfl⟩
  | cons t rest ih =>
    have ht : patterns[i]? = some t := by rw [← List.head?_drop, hrest, List.head?_cons]
    have hnext : patterns.drop (i + 1) = rest := by rw [← List.tail_drop, hrest, List.tail_cons]
    obtain ⟨ch₁, hroot₁, hbound, htry⟩ := tryPattern_of_bindsOnly (m := m) hbinds hroot husername hpassword ht
    rw [triedPatterns_cons, List.find?_cons, authenticateByPatterns, Session.perform_bind_of_ok htry]
    cases d.acceptsLogin username password t with
    | true => exact ⟨ch₁, hbound, rfl⟩
    | false =>
      -- nothing was read, so the rejection says nothing about the patterns behind
      obtain ⟨ch', hbound', hrun⟩ := ih hroot₁ hnext
      refine ⟨ch', hbound.trans hbound', ?_⟩
      have hunread : h.settings.attributeIds.isEmpty = true := List.isEmpty_iff.mpr hbinds.unread
      simp only [Bool.false_eq_true, if_false, hunread, if_true]
      exact hrun

/-- So does a login over the connection. -/
theorem authenticate_of_bindsOnly (hbinds : h.BindsOnly patterns) (hroot : ch.AtRoot h.settings d)
    (husername : username ≠ "") (hpassword : password ≠ "") :
    ∃ ch', ch.BindsWithin
        ((triedPatterns d username password patterns).map fun t => .simple (t.nameOf username) password) ch' ∧
      (authenticate h m username password).perform ch =
        (.ok ((patterns.find? (d.acceptsLogin username password)).map (grantOfName h.settings username password)),
          ch') := by
  rw [authenticate, hbinds.found]
  exact authenticateByPatterns_of_bindsOnly hbinds hroot husername hpassword List.drop_zero

end Exchange

/-! ## §4 The theorem -/

open Exchange

/-- **Logging in by binds alone.** Take a new realm with simple binds that finds users by patterns, each with a slot for
the user name, reads no attribute of their entries and searches for no roles, in a world without faults whose directory
answers from its entries and lets the service in, under a URL without a path. Then a connection is opened, and nothing
fails. There is a principal exactly if, for some pattern, the directory accepts the password for the name that the
pattern gives the user: the principal has the user's name, and no role but the one that every user has. The binds that
are sent over the connection are among those of the patterns up to the first accepted one, in the order of the
patterns. -/
theorem Realm.bind_only_login {registry : Registry} {snapshot : Snapshot} {given : Option Matcher} {w : World}
    {realm : Realm} (hcreate : ((Realm.create registry snapshot given).perform w).1 = .ok realm)
    (hquiet : w.faults = []) (hordinary : w.directory.fixedResponse = none)
    (hconnector : realm.manager.connector = .standard) {h : Handle} (hsettings : h.settings = snapshot.settings)
    (hcompile : Templates.compile h.settings = .ok h.templates) {patterns : List Template}
    (hbinds : h.BindsOnly patterns) {attempt : Int}
    (hreached : Connection.establishOutcome w.directory .standard realm.manager.tls h.settings = .ok ("", attempt))
    {username : String} {password : Password} (husername : username ≠ "") (hpassword : password ≠ "") :
    ∃ c w₁ value events,
      (Connection.establish .standard realm.manager.tls h.settings).perform realm.manager.world = (.ok c, w₁) ∧
      ((Login.authenticate (some username) (some password)).perform realm).1 = .ok value ∧
      (value.isSome = true ↔ ∃ t ∈ patterns,
        w.directory.checkPassword (.text (t.nameOf username)) password.value = .ok ()) ∧
      (∀ principal, value = some principal → principal = ⟨username, h.settings.commonRole.toList, .null⟩) ∧
      ((Login.authenticate (some username) (some password)).perform realm).2.manager.world.events =
        w₁.events ++ events ∧
      (Event.binds events).Sublist ((triedPatterns w.directory username password patterns).map
        fun t => .simple (t.nameOf username) password) := by
  have hregular := Realm.Regular.of_create hquiet hcreate
  have hnew := Realm.isNew_of_create hcreate
  -- the handle belongs to the settings of the realm
  have hactive : realm.settings = h.settings := by
    obtain ⟨_, _, _, -, -, -, rfl⟩ := Realm.of_create_ok hcreate
    exact hsettings.symm
  rw [← hregular.sameDirectory] at hordinary hreached ⊢
  -- the directory is reached, so the connection is opened
  obtain ⟨c, w₁, hopen⟩ : ∃ c w₁,
      (Connection.establish .standard realm.manager.tls h.settings).perform realm.manager.world = (.ok c, w₁) := by
    rcases Connection.establish_run .standard realm.manager.tls h.settings hregular.manager.quiet with
      ⟨c, w₁, hrun, -⟩ | ⟨e, _, -, hfailed⟩
    · exact ⟨c, w₁, hrun⟩
    · cases hreached.symm.trans hfailed
  have hroot := Channel.AtRoot.of_establish hregular.manager.quiet hordinary hreached hopen
  -- over it the login tries the patterns
  obtain ⟨ch', hbound, hrun⟩ := authenticate_of_bindsOnly (m := realm.matcher) hbinds hroot husername hpassword
  have hopen' := hopen
  rw [← hconnector, ← hactive] at hopen'
  -- it is the first call of the realm, so this is all that the call does
  obtain ⟨hvalue, hevents⟩ := Realm.first_login hnew hactive.symm hcompile hopen' husername hpassword hrun
  obtain ⟨events, hsent, hwithin⟩ := hbound
  refine ⟨c, w₁, _, events, hopen, hvalue, ?_, ?_, hevents.trans hsent, hwithin⟩
  · -- there is a value exactly if one of the patterns was accepted
    rw [Option.isSome_map, Option.isSome_map, List.find?_isSome]
    simp only [Directory.acceptsLogin_iff]
  · intro principal hprincipal
    obtain ⟨g, hg, rfl⟩ := Option.map_eq_some_iff.mp hprincipal
    obtain ⟨t, -, rfl⟩ := Option.map_eq_some_iff.mp hg
    rfl

/-! ### A run -/

/-- Settings that only bind, with two patterns. -/
def Settings.bindOnly : Settings where
  connectionUrl := some "ldap://directory"
  userPattern := some "(uid=\x7b0\x7d,ou=day)(uid=\x7b0\x7d,ou=night)"
  commonRole := some "members"

/-- The pattern for this unit. -/
def Template.ofUnit (unit : String) : Template where
  pattern := "uid=\x7b0\x7d,ou=" ++ unit
  pieces := "uid=".toList.map .literal ++ .slot 0 :: (",ou=" ++ unit).toList.map .literal

def Handle.bindOnly : Handle where
  snapshot := ⟨0, .bindOnly⟩
  pooled := false
  templates := ⟨none, some [.ofUnit "day", .ofUnit "night"], none, none⟩

/-- A world that knows one user, in the second unit. -/
def World.ofNight : World where
  directory := { passwords := [("uid=ada,ou=night", "pearl")] }

/-- The second pattern logs the user in; with a wrong password neither does. -/
theorem night_logged_in :
    ∃ realm, ((Realm.create {} ⟨0, .bindOnly⟩ none).perform .ofNight).1 = .ok realm ∧
      ((Login.authenticate (some "ada") (some "pearl")).perform realm).1 = .ok (some ⟨"ada", ["members"], .null⟩) ∧
      ((Login.authenticate (some "ada") (some "coral")).perform realm).1 = .ok none := by
  have hcompile : Templates.compile Handle.bindOnly.settings = .ok Handle.bindOnly.templates := by decide +kernel
  have hchosen : (((Realm.create {} ⟨0, .bindOnly⟩ none).perform .ofNight).1.toOption.any fun realm =>
      realm.manager.connector = .standard ∧ realm.manager.tls.isNone) = true := by decide +kernel
  obtain ⟨realm, hcreate, hchosen⟩ := exists_ok_of_any hchosen
  obtain ⟨hconnector, htls⟩ := of_decide_eq_true hchosen
  have htls := Option.isNone_iff_eq_none.mp htls
  have hbinds : Handle.bindOnly.BindsOnly [.ofUnit "day", .ofUnit "night"] :=
    ⟨rfl, by decide, .inl rfl, rfl, .inl rfl⟩
  have hreached : Connection.establishOutcome World.ofNight.directory .standard realm.manager.tls
      Handle.bindOnly.settings = .ok ("", 0) := by
    rw [htls]
    decide +kernel
  have hlogin (password : Password) (hpassword : password ≠ "") := Realm.bind_only_login hcreate rfl rfl hconnector
    (h := .bindOnly) rfl hcompile hbinds hreached (by decide : "ada" ≠ "") hpassword
  refine ⟨realm, hcreate, ?_, ?_⟩
  · -- the second pattern gives the name that the directory knows with this password
    obtain ⟨_, _, value, _, -, hvalue, haccepted, hprincipal, -⟩ := hlogin "pearl" (by decide)
    obtain ⟨principal, rfl⟩ := Option.isSome_iff_exists.mp
      (haccepted.mpr ⟨.ofUnit "night", List.mem_cons_of_mem _ List.mem_cons_self, by decide +kernel⟩)
    rw [hvalue, hprincipal principal rfl]
    rfl
  · -- with the other password no pattern is accepted
    obtain ⟨_, _, value, _, -, hvalue, haccepted, -⟩ := hlogin "coral" (by decide)
    have hnone : ¬ value.isSome = true := by
      rw [haccepted]
      decide +kernel
    rw [hvalue, Option.not_isSome_iff_eq_none.mp hnone]

end DirectoryLogin

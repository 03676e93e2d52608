import DirectoryLogin.Proofs.Realm.ServiceIdentity
/-!
# How Fresh an Accepted Password Is

A password is checked by a read that binds as the user. The read binds only if the identity is not bound already, so
there is one case in which the directory is not asked: the connection is still bound as that user with that very
password. Then the password was accepted at some time, but it need not be accepted now.

- `Exchange.verifyByBind_true_iff`: what a check says, exactly.
- `login_fresh_or_remembered`: whoever is logged in has a password that the directory accepts now, unless a connection
  remembers the login.
- `changed_password_still_accepted`: a run in which a password is accepted after it was changed.
-/

namespace DirectoryLogin

/-! ## §1 What a positive check says -/

/-- The mechanism under which passwords are checked. -/
def Settings.checkMechanism (s : Settings) : Option String :=
  s.authentication.filter (· != delegationMechanism)

/-- The identity under which a password is checked. -/
def Settings.checkIdentity (s : Settings) (dn : String) (password : Password) : Identity where
  principal := .text dn
  credentials := password.value
  authentication := .ofOption s.checkMechanism
  delegated := .null

theorem Settings.checkIdentity_isTextual (s : Settings) (dn : String) (password : Password) :
    (s.checkIdentity dn password).IsTextual where
  principal := .inr ⟨dn, rfl⟩
  credentials := .inr ⟨password, rfl⟩
  authentication := Value.isTextual_ofOption _
  delegated := .inl rfl

/-- The identity of a login: under simple binds, passwords are checked under this one. -/
def Settings.loginIdentity (s : Settings) (dn : String) (password : Password) : Identity where
  principal := .text dn
  credentials := password.value
  authentication := .ofOption s.authentication
  delegated := .null

theorem Settings.loginIdentity_isTextual (s : Settings) (dn : String) (password : Password) :
    (s.loginIdentity dn password).IsTextual where
  principal := .inr ⟨dn, rfl⟩
  credentials := .inr ⟨password, rfl⟩
  authentication := Value.isTextual_ofOption _
  delegated := .inl rfl

/-- The mechanism of the settings is a simple bind. -/
def Settings.BindsSimply (s : Settings) : Prop :=
  s.authentication = none ∨ s.authentication = some "simple"

namespace Environment

/-- Whoever the connection acts as and whatever the mechanism, a check runs under this identity. -/
theorem identity_forCheck_of_tidy {s : Settings} {e : Environment} (he : e.TidyButIdentity s)
    (dn : String) (password : Password) :
    (e.forCheck (some dn) (some password)).identity = s.checkIdentity dn password := by
  obtain ⟨attempt, -, hothers⟩ := he
  have hauthentication : e.value authentication = .ofOption s.authentication := by
    rw [value, hothers authentication (by decide) (by decide), get?_ofSettings_authentication]
    rcases s.authentication with _ | name <;> rfl
  have hdelegated : e.get? delegated = none := by
    rw [hothers delegated (by decide) (by decide)]
    exact get?_ofSettings_delegation s attempt (by decide)
  -- the four entries of an identity have four names
  have hpc : principal ≠ credentials := by decide
  have hac : authentication ≠ credentials := by decide
  have hap : authentication ≠ principal := by decide
  have hdc : delegated ≠ credentials := by decide
  have hdp : delegated ≠ principal := by decide
  have hda : delegated ≠ authentication := by decide
  have hmechanism : (e.forCheck (some dn) (some password)).value authentication = .ofOption s.checkMechanism := by
    rw [forCheck, hauthentication, Value.text?_ofOption, Settings.checkMechanism]
    rcases hname : s.authentication with _ | name
    · have habsent : e.value authentication = .null := by rw [hauthentication, hname]; rfl
      simpa [asUser, value, get?_insert, hac, hap, Value.ofOption] using habsent
    · by_cases hdelegation : name = delegationMechanism
      · simp [hdelegation, value, Value.ofOption, Option.filter]
      · have hkept : e.value authentication = .text name := by rw [hauthentication, hname]; rfl
        simpa [hdelegation, asUser, value, get?_insert, hac, hap, Option.filter, Value.ofOption] using hkept
  have hothers : (e.forCheck (some dn) (some password)).value principal = .text dn ∧
      (e.forCheck (some dn) (some password)).value credentials = password.value ∧
      (e.forCheck (some dn) (some password)).value delegated = .null := by
    unfold forCheck
    split <;>
      simp [asUser, value, get?_insert, get?_erase, hpc, hac.symm, hap.symm, hdc, hdp, hda, hdelegated, Value.ofOption,
        Value.ofPassword]
  obtain ⟨hp, hc, hd⟩ := hothers
  rw [identity, hp, hc, hmechanism, hd]
  rfl

/-- Under simple binds, a check runs under the identity of the login. -/
theorem identity_forCheck {s : Settings} {e : Environment} (hsimple : s.BindsSimply) (he : e.TidyButIdentity s)
    (dn : String) (password : Password) :
    (e.forCheck (some dn) (some password)).identity = s.loginIdentity dn password := by
  have hkept : s.checkMechanism = s.authentication := by
    rcases hsimple with h | h <;> rw [Settings.checkMechanism, h] <;> decide
  rw [identity_forCheck_of_tidy he, Settings.checkIdentity, hkept]
  rfl

end Environment

/-- The bind of a login brings the name and the password, unless there is no name: then it is an anonymous one. -/
theorem BindRequest.ofIdentity_loginIdentity {s : Settings} {dn : String} (hsimple : s.BindsSimply)
    (hname : ¬ (s.authentication = none ∧ dn = "")) (password : Password) :
    BindRequest.ofIdentity (s.loginIdentity dn password) =
      .ok { user := .text dn, password := password.value, authentication := .simple } := by
  -- with no mechanism set, the name decides that the bind is simple
  have hmechanism : (s.loginIdentity dn password).toEnvironment.mechanism = .text "simple" := by
    rcases hsimple with hnone | hsome
    · have hname : dn ≠ "" := fun hdn => hname ⟨hnone, hdn⟩
      simp [Environment.mechanism, Identity.toEnvironment, Settings.loginIdentity, hnone, Environment.value,
        Environment.get?, Environment.authentication, Environment.principal, Environment.credentials,
        Value.ofOption, Value.isGiven, hname]
    · simp [Environment.mechanism, Identity.toEnvironment, Settings.loginIdentity, hsome, Environment.value,
        Environment.get?, Environment.authentication, Environment.principal, Environment.credentials,
        Value.ofOption]
  have hnone : (Text.lower "simple" == "none") = false := by decide +kernel
  have hsimple : (Text.lower "simple" == "simple") = true := by decide +kernel
  rw [BindRequest.ofIdentity, BindRequest.ofEnvironment, hmechanism]
  simp only [hnone, hsimple, if_true]
  rfl

/-- If the directory accepts the identity of a login, it accepts the password, unless there is no name: then the bind
is an anonymous one. -/
theorem checkPassword_of_accepts {s : Settings} {d : Directory} {dn : String} {password : Password}
    (hsimple : s.BindsSimply) (h : d.Accepts (s.loginIdentity dn password)) :
    d.checkPassword (.text dn) password.value = .ok () ∨ s.authentication = none ∧ dn = "" := by
  by_cases hempty : s.authentication = none ∧ dn = ""
  · exact .inr hempty
  left
  have hrequest := BindRequest.ofIdentity_loginIdentity hsimple hempty password
  obtain ⟨user, r, hr, hcheck⟩ := h
  rw [hrequest] at hr
  cases hr
  simp only [World.checkBind] at hcheck
  -- a password that the directory refuses would not have been accepted
  rcases hpassword : d.checkPassword (.text dn) password.value with e | _
  · rw [hpassword] at hcheck
    cases hcheck
  · rfl

namespace Exchange

/-- A bind that has gone through was bound already, or the directory accepts it. -/
theorem bound_or_accepts_of_bind_ok {ch ch' : Channel} (h : bind.perform ch = (.ok (), ch')) :
    (∃ i, ch.connection.bound = some i ∧ i.Matches ch.connection.environment.identity) ∨
      ch.world.directory.Accepts ch.connection.environment.identity := by
  have hrun := bind_run ch
  rw [h] at hrun
  cases hrun with
  | skipped hbound =>
    obtain ⟨i, hi, hsame⟩ := (Option.any_eq_true _ _).mp hbound
    exact .inl ⟨i, hi, (Identity.matches_of_same hsame).symm⟩
  | accepted _ r w hrequest hanswer =>
    obtain ⟨user, hcheck, -⟩ := World.of_bindWire_accepted hanswer
    exact .inr ⟨user, r, hrequest, hcheck⟩

theorem bind_ok_of_checkBound {ch ch' : Channel} (h : checkBound.perform ch = (.ok true, ch')) :
    ∃ ch₁, bind.perform ch = (.ok (), ch₁) := by
  obtain ⟨attributes, hread⟩ := read_ok_of_checkBound h
  rw [read_eq] at hread
  obtain ⟨_, ch₁, hbind, -⟩ := Session.of_perform_bind_ok hread
  exact ⟨ch₁, hbind⟩

/-- **What a positive check says**: the connection was bound as the user already, or the directory accepts the
password. -/
theorem of_verifyByBind_true {s : Settings} {user : User} {password : Option Password} {ch ch' : Channel}
    (hsimple : s.BindsSimply) (htidy : ch.connection.environment.TidyButIdentity s)
    (h : (verifyByBind s user password).perform ch = (.ok true, ch')) :
    ∃ dn text, user.dn = some dn ∧ password = some text ∧
      (ch.connection.bound = some (s.loginIdentity dn text) ∨
        ch.world.directory.Accepts (s.loginIdentity dn text)) := by
  rw [verifyByBind_eq] at h
  split at h
  · cases h
  rename_i hguard
  obtain ⟨dn, hdn⟩ : ∃ dn, user.dn = some dn := by
    rcases hdn : user.dn with _ | dn
    · simp [hdn] at hguard
    · exact ⟨dn, rfl⟩
  obtain ⟨text, htext⟩ : ∃ text, password = some text := by
    rcases password with _ | text
    · simp [Value.ofPassword, Value.isGiven] at hguard
    · exact ⟨text, rfl⟩
  refine ⟨dn, text, hdn, htext, ?_⟩
  rw [hdn, htext] at h
  have hresult : (checkBound.perform
      (ch.withEnvironment (ch.connection.environment.forCheck (some dn) (some text)))).1 = .ok true :=
    congrArg Prod.fst h
  -- the read went through, so its bind did
  obtain ⟨ch₁, hbind⟩ := bind_ok_of_checkBound (Prod.ext hresult rfl)
  have hidentity := Environment.identity_forCheck hsimple htidy dn text
  rcases bound_or_accepts_of_bind_ok hbind with ⟨i, hi, hmatches⟩ | haccepts
  · left
    have hmatches : i.Matches (s.loginIdentity dn text) := hidentity ▸ hmatches
    rw [← (s.loginIdentity_isTextual dn text).eq_of_matches hmatches.symm]
    exact hi
  · exact .inr (hidentity ▸ haccepts)

/-- Binding goes through for an identity that is bound already, or that the directory accepts. -/
theorem bind_ok_of_bound_or_accepts {ch : Channel} (hquiet : ch.world.faults = [])
    (htextual : ch.connection.environment.identity.IsTextual)
    (h : ch.connection.bound = some ch.connection.environment.identity ∨
      ch.world.directory.Accepts ch.connection.environment.identity) :
    (bind.perform ch).1 = .ok () := by
  rw [bind_eq]
  by_cases hbound : ch.connection.isBound = true
  · rw [if_pos hbound]
  rw [if_neg hbound]
  rcases h with hsame | ⟨user, r, hrequest, hcheck⟩
  · refine absurd ?_ hbound
    rw [Connection.isBound, hsame, Option.any_some]
    exact htextual.same_self
  · have hrequest : BindRequest.ofEnvironment ch.connection.environment = .ok r := hrequest
    simp only [hrequest, World.bindWire_eq, hquiet, Fault.strike, Fault.verdict, hcheck]

/-- A bound connection reads the root of a plain directory. -/
theorem readBound_root {ch : Channel} (hquiet : ch.world.faults = []) (hkind : ch.connection.kind = .standard)
    (hname : ch.connection.namespaceName = "") (hroot : ch.world.directory.fixedResponse = none) :
    ∃ attributes, ((readBound "" none).perform ch).1 = .ok attributes := by
  have hfull : ch.connection.fullName "" = "" := by
    rw [Connection.fullName, hname]
    rfl
  rw [readBound_eq, hkind]
  simp only [World.searchWire_eq, hquiet, Fault.strike, Fault.verdict, Directory.search, hroot, readRequest, hfull,
    Directory.read]
  exact ⟨_, rfl⟩

/-- On a plain directory it is the bind that decides the check. -/
theorem checkBound_true_of_bind_ok {ch : Channel} (hbind : (bind.perform ch).1 = .ok ()) (hquiet : ch.world.faults = [])
    (hkind : ch.connection.kind = .standard) (hname : ch.connection.namespaceName = "")
    (hroot : ch.world.directory.fixedResponse = none) : (checkBound.perform ch).1 = .ok true := by
  have hproceeds := bind_proceeds ch
  rcases hrun : bind.perform ch with ⟨result, ch₁⟩
  rw [hrun] at hbind hproceeds
  dsimp only at hbind hproceeds
  subst hbind
  obtain ⟨attributes, hread⟩ := readBound_root (hproceeds.world.quiet hquiet) (hproceeds.kind.trans hkind)
    (hproceeds.namespaceName.trans hname) (hproceeds.world.directory ▸ hroot)
  -- the bind succeeded, so what the check returns hangs on the read of the root
  rw [checkBound, Session.perform_rescue, read_eq, Session.perform_bind, Session.perform_bind, hrun]
  dsimp only
  rcases hbound : (readBound "" none).perform ch₁ with ⟨_ | _, ch₂⟩
  · rw [hbound] at hread
    cases hread
  · rfl

/-- **What a check says, exactly**, on a plain directory: it is positive if and only if the connection remembers the
login or the directory accepts it. -/
theorem verifyByBind_true_iff {s : Settings} {user : User} {dn : String} {text : Password} {ch : Channel}
    (hsimple : s.BindsSimply) (htidy : ch.connection.environment.TidyButIdentity s) (hdn : user.dn = some dn)
    (htext : text ≠ "") (hquiet : ch.world.faults = []) (hkind : ch.connection.kind = .standard)
    (hname : ch.connection.namespaceName = "") (hroot : ch.world.directory.fixedResponse = none) :
    ((verifyByBind s user (some text)).perform ch).1 = .ok true ↔
      ch.connection.bound = some (s.loginIdentity dn text) ∨
        ch.world.directory.Accepts (s.loginIdentity dn text) := by
  constructor
  · intro h
    obtain ⟨dn', text', hdn', htext', h⟩ := of_verifyByBind_true hsimple htidy (Prod.ext h rfl)
    rw [hdn] at hdn'
    cases hdn'
    cases htext'
    exact h
  · intro h
    have hgiven : (user.dn.isNone || !(Value.ofPassword (some text)).isGiven) = false := by
      simp [hdn, Value.ofPassword, Password.isGiven_value_iff, htext]
    have hidentity := Environment.identity_forCheck hsimple htidy dn text
    rw [verifyByBind_eq, hgiven, hdn]
    -- the check runs in an edited environment, and only the environment is edited
    have hbind : (bind.perform
        (ch.withEnvironment (ch.connection.environment.forCheck (some dn) (some text)))).1 = .ok () := by
      refine bind_ok_of_bound_or_accepts hquiet ?_ (hidentity ▸ h)
      exact hidentity ▸ s.loginIdentity_isTextual dn text
    have hcheck : (checkBound.perform
        (ch.withEnvironment (ch.connection.environment.forCheck (some dn) (some text)))).1 = .ok true :=
      checkBound_true_of_bind_ok hbind hquiet hkind hname hroot
    exact hcheck

/-! ## §2 What a login says -/

/-- The user of a login passed the check on a connection that had come from `ch` by orderly steps. -/
def Verified (h : Handle) (m : Matcher) (password : Password) (ch : Channel) (g : Grant) : Prop :=
  ∃ ch₁ ch₂, Channel.Serves h.settings ch ch₁ ∧
    (verify h.settings m g.user (some password)).perform ch₁ = (.ok true, ch₂)

variable {h : Handle} {m : Matcher} {username : String} {password : Password} {ch ch' : Channel} {g : Grant}

theorem Verified.of_serves {ch₀ : Channel} (hserves : Channel.Serves h.settings ch₀ ch)
    (hg : Verified h m password ch g) : Verified h m password ch₀ g := by
  obtain ⟨ch₁, ch₂, hserves', hverify⟩ := hg
  exact ⟨ch₁, ch₂, trans_of _ hserves hserves', hverify⟩

/-- The channel after the first part of an orderly program. -/
theorem serves_of_perform {α : Type} {s : Settings} {P : α → Prop} {x : Exchange α} (hx : Orderly s P x)
    {result : Except Failure α} (hrun : x.perform ch = (result, ch')) : Channel.Serves s ch ch' := by
  have hserves := hx.serves ch
  rwa [hrun] at hserves

theorem verified_of_authenticateUser {user : User}
    (hrun : (authenticateUser h m username password user).perform ch = (.ok (some g), ch')) :
    Verified h m password ch g := by
  obtain ⟨verified, ch₁, hverify, hrun⟩ := Session.of_perform_bind_ok hrun
  cases verified with
  | false => cases hrun
  | true =>
    obtain ⟨principal, ch₂, _, hrun⟩ := Session.of_perform_bind_ok hrun
    cases hrun
    exact ⟨ch, ch₁, refl_of _ ch, hverify⟩

theorem verified_of_tryPattern {index : Nat}
    (hrun : (tryPattern h m username password index).perform ch = (.ok (.accepted g), ch')) :
    Verified h m password ch g := by
  rcases Session.of_perform_rescue_if hrun with ⟨hattempt, -⟩ | ⟨_, _, -, -, hreport⟩
  · obtain ⟨user, ch₁, hget, hattempt⟩ := Session.of_perform_bind_ok hattempt
    cases user with
    | none => cases hattempt
    | some user =>
      obtain ⟨granted, ch₃, huser, hattempt⟩ := Session.of_perform_bind_ok hattempt
      cases granted with
      | none => cases hattempt
      | some g' =>
        cases hattempt
        exact (verified_of_authenticateUser huser).of_serves (serves_of_perform Orderly.getUser hget)
  · -- a handled failure leaves the pattern unresolved
    obtain ⟨_, _, _, hreturn⟩ := Session.of_perform_bind_ok hreport
    cases hreturn

theorem verified_of_authenticateByPatterns {patterns : List Template} {index : Nat}
    (hrun : (authenticateByPatterns h m username password index patterns).perform ch = (.ok (some g), ch')) :
    Verified h m password ch g := by
  -- the patterns before the one that is accepted leave the connection as orderly steps do
  induction patterns generalizing index ch with
  | nil => cases hrun
  | cons _ rest ih =>
    obtain ⟨outcome, ch₁, htry, hrun⟩ := Session.of_perform_bind_ok hrun
    have hserves := serves_of_perform Orderly.tryPattern htry
    cases outcome with
    | accepted g' =>
      cases hrun
      exact verified_of_tryPattern htry
    | unresolved => exact (ih hrun).of_serves hserves
    | rejected =>
      dsimp only at hrun
      split at hrun
      · exact (ih hrun).of_serves hserves
      · cases hrun

theorem verified_of_authenticate (hrun : (authenticate h m username password).perform ch = (.ok (some g), ch')) :
    Verified h m password ch g := by
  unfold authenticate at hrun
  split at hrun
  · exact verified_of_authenticateByPatterns hrun
  · obtain ⟨user, ch₁, hget, hrun⟩ := Session.of_perform_bind_ok hrun
    cases user with
    | none => cases hrun
    | some user => exact (verified_of_authenticateUser hrun).of_serves (serves_of_perform Orderly.getUser hget)

end Exchange

/-! ## §3 Logins of a realm -/

/-- A connection that a login may run on is still bound with this name and this password. -/
def Realm.Remembers (r : Realm) (dn : String) (password : Password) : Prop :=
  ∃ id h c, r.manager.handle? id = some h ∧ h.snapshot = r.manager.active ∧ h.connection = some c ∧
    c.bound = some (r.settings.loginIdentity dn password)

variable {r : Realm} {username : Option String} {password : Option Password} {g : Grant}

theorem Login.of_grant_some (h : ((grant username password).perform r).1 = .ok (some g)) :
    ∃ name text m', username = some name ∧ password = some text ∧
      (Managed.answer "authentication" fun h => Exchange.authenticate h r.matcher name text).perform r.manager =
        (.ok (some g), m') := by
  unfold grant at h
  split at h
  · rename_i name text hname htext
    rw [Session.perform_bind_of_ok (Session.perform_get r)] at h
    obtain ⟨granted, r₁, hanswer, h⟩ := Session.of_perform_bind_ok (Prod.ext h rfl)
    -- the message at the end does not change what was granted
    have hgranted : granted = some g := by
      split at h
      · obtain ⟨_, _, _, h⟩ := Session.of_perform_bind_ok h
        cases h
        rfl
      · obtain ⟨_, _, _, h⟩ := Session.of_perform_bind_ok h
        cases h
    subst hgranted
    have hresult := congrArg Prod.fst hanswer
    exact ⟨name, text, _, (Option.filter_eq_some_iff.mp hname).1, (Option.filter_eq_some_iff.mp htext).1,
      Prod.ext hresult rfl⟩
  · cases h

namespace Scene

variable {scene : Scene}

theorem Sound.fresh_or_remembered (hsound : scene.Sound) (hstored : scene.realm.settings.userPassword = none)
    (hsimple : scene.realm.settings.BindsSimply)
    (h : ((Login.grant username password).perform scene.realm).1 = .ok (some g)) :
    ∃ dn text, g.user.dn = some dn ∧ password = some text ∧
      (scene.realm.manager.world.directory.checkPassword (.text dn) text.value = .ok () ∨
        scene.realm.Remembers dn text ∨ scene.realm.settings.authentication = none ∧ dn = "") := by
  obtain ⟨name, text, m', rfl, rfl, hanswer⟩ := Login.of_grant_some h
  obtain ⟨m₁, id, handle, c, ch, hstays, hid, hsnapshot, hc, hrun⟩ :=
    Managed.answer_ok (fun h => Exchange.Orderly.authenticate.serves) hsound.poolCurrent hanswer
  obtain ⟨ch₁, ch₂, hserves, hverify⟩ := Exchange.verified_of_authenticate hrun
  have hsettings : handle.settings = scene.realm.settings := congrArg Snapshot.settings hsnapshot
  rw [hsettings] at hserves hverify
  have hsound₁ : Sound { scene with realm := { scene.realm with manager := m₁ } } :=
    hsound.keeps hstays.toKeeps rfl
  have htidy := hserves.environment.tidyButIdentity (hsettings ▸ (hsound₁.environment id handle c hid hc).1)
  rw [Exchange.verify, hstored] at hverify
  obtain ⟨dn, _, hdn, ⟨⟩, hbound⟩ := Exchange.of_verifyByBind_true hsimple htidy hverify
  refine ⟨dn, text, hdn, rfl, ?_⟩
  have hdirectory : m₁.world.directory = scene.realm.manager.world.directory := hstays.directory
  -- whoever is bound now was accepted during the call, or was bound before it
  have hpast : scene.realm.manager.world.directory.Accepts (scene.realm.settings.loginIdentity dn text) ∨
      scene.realm.Remembers dn text := by
    have hserved : ch₁.world.directory = m₁.world.directory := hserves.world.directory
    rcases hbound with hbound | haccepts
    · rcases hserves.bound _ hbound with hold | haccepts
      · rcases hstays.toKeeps.bound hid hc hold with haccepts | ⟨h₀, c₀, hid₀, hsame, hc₀, hbound₀⟩
        · exact .inl haccepts
        · exact .inr ⟨id, h₀, c₀, hid₀, hsame.trans hsnapshot, hc₀, hbound₀⟩
      · exact .inl (hdirectory ▸ haccepts)
    · exact .inl (hdirectory ▸ hserved ▸ haccepts)
  rcases hpast with haccepts | hremembers
  · rcases checkPassword_of_accepts hsimple haccepts with hfresh | hanonymous
    · exact .inl hfresh
    · exact .inr (.inr hanonymous)
  · exact .inr (.inl hremembers)

end Scene

/-- **A login is fresh, or a connection remembers it.** After any run from a new realm that checks passwords by simple
binds: whoever is logged in has a password that the directory accepts during that very call, unless a connection is
still bound with that name and that password from an earlier one, or the name is empty and the bind anonymous. The
exception is real: over a connection to a plain directory a check is positive exactly if the directory accepts the
password or the connection remembers it. -/
theorem login_fresh_or_remembered {registry : Registry} {snapshot : Snapshot} {given : Option Matcher} {w : World}
    {r : Realm} (hcreate : ((Realm.create registry snapshot given).perform w).1 = .ok r) (activities : List Activity)
    {scene : Scene} (hscene : scene = Scene.run { realm := r } activities)
    (hstored : scene.realm.settings.userPassword = none) (hsimple : scene.realm.settings.BindsSimply) :
    (∀ username password p, ((Login.authenticate username password).perform scene.realm).1 = .ok (some p) →
      ∃ g dn text, ((Login.grant username password).perform scene.realm).1 = .ok (some g) ∧ g.principal = p ∧
        g.user.dn = some dn ∧ password = some text ∧
        (scene.realm.manager.world.directory.checkPassword (.text dn) text.value = .ok () ∨
          scene.realm.Remembers dn text ∨ scene.realm.settings.authentication = none ∧ dn = "")) ∧
    (∀ id h c user dn (text : Password), scene.realm.manager.handle? id = some h →
      h.snapshot = scene.realm.manager.active →
      h.connection = some c → c.kind = .standard → c.namespaceName = "" → scene.realm.manager.world.faults = [] →
      scene.realm.manager.world.directory.fixedResponse = none → user.dn = some dn → text ≠ "" →
      (((Exchange.verify h.settings scene.realm.matcher user (some text)).perform
          ⟨c, scene.realm.manager.world⟩).1 = .ok true ↔
        c.bound = some (scene.realm.settings.loginIdentity dn text) ∨
          scene.realm.manager.world.directory.Accepts (scene.realm.settings.loginIdentity dn text))) := by
  have hsound : scene.Sound := hscene ▸ (Scene.sound_of_create hcreate).run activities
  constructor
  · -- a grant comes with an identity that the directory or the connection has accepted
    intro username password p hlogin
    obtain ⟨granted, r', hgrant, hreturn⟩ := Session.of_perform_bind_ok (Prod.ext hlogin rfl)
    cases granted with
    | none => cases hreturn
    | some g =>
      cases hreturn
      have hgrant := congrArg Prod.fst hgrant
      obtain ⟨dn, text, hdn, htext, h⟩ := hsound.fresh_or_remembered hstored hsimple hgrant
      exact ⟨g, dn, text, hgrant, rfl, hdn, htext, h⟩
  · -- the check is made over a connection as its handle has it
    intro id h c user dn text hid hsnapshot hc hkind hname hquiet hroot hdn htext
    have hsettings : h.settings = scene.realm.settings := congrArg Snapshot.settings hsnapshot
    have htidy := hsettings ▸ (hsound.environment id h c hid hc).1
    rw [hsettings, Exchange.verify, hstored]
    exact Exchange.verifyByBind_true_iff hsimple htidy hdn htext hquiet hkind hname hroot

/-! ### A password that was changed -/

/-- Settings that build the names of users from a pattern. -/
def Settings.byPattern : Settings where
  connectionUrl := some "ldap://directory"
  userPattern := some "uid={0}"

/-- A world that knows one user. -/
def World.withUser : World where
  directory := { passwords := [("uid=ada", "pearl")] }

/-- A login, after which the password is changed. -/
def Activity.loginAndChange (r : Realm) : List Activity :=
  let login : Activity := .authenticate (some "ada") (some "pearl")
  let w := (Scene.run { realm := r } [login]).realm.manager.world
  [login, .outside { w with directory := { passwords := [("uid=ada", "coral")] } }]

def Scene.afterChange (r : Realm) : Scene :=
  .run { realm := r } (Activity.loginAndChange r)

/-- The old password is still accepted, although the directory does not accept it any more. -/
theorem changed_password_still_accepted :
    ∃ r, ((Realm.create {} ⟨0, .byPattern⟩ none).perform .withUser).1 = .ok r ∧
      ∃ g, ((Login.grant (some "ada") (some "pearl")).perform (Scene.afterChange r).realm).1 = .ok (some g) ∧
        ((Login.authenticate (some "ada") (some "pearl")).perform (Scene.afterChange r).realm).1 =
          .ok (some g.principal) ∧
        g.user.dn = some "uid=ada" ∧
        (Scene.afterChange r).realm.manager.world.directory.checkPassword (.text "uid=ada") (.text "pearl") ≠
          .ok () := by
  -- the two logins are run, and what they return is read off
  have hrun : (((Realm.create {} ⟨0, .byPattern⟩ none).perform .withUser).1.toOption.any fun r =>
      (((Login.grant (some "ada") (some "pearl")).perform (Scene.afterChange r).realm).1.toOption.any fun granted =>
        granted.any (·.user.dn == some "uid=ada")) &&
      !((Scene.afterChange r).realm.manager.world.directory.checkPassword (.text "uid=ada") (.text "pearl")).isOk) =
      true := by decide +kernel
  obtain ⟨r, hcreate, hrun⟩ := exists_ok_of_any hrun
  obtain ⟨hlogin, hrefused⟩ := Bool.and_eq_true_iff.mp hrun
  obtain ⟨granted, hgrant, hgranted⟩ := exists_ok_of_any hlogin
  obtain ⟨g, rfl, hdn⟩ := (Option.any_eq_true _ _).mp hgranted
  refine ⟨r, hcreate, g, hgrant, ?_, eq_of_beq hdn, fun haccepted => ?_⟩
  · rw [Login.authenticate, Session.perform_bind_of_ok (Prod.ext hgrant rfl)]
    rfl
  · rw [haccepted] at hrefused
    cases hrefused

/-- The shared connection remembers the login, so that the old password passes. -/
theorem changed_password_remembered :
    ∃ r, ((Realm.create {} ⟨0, .byPattern⟩ none).perform .withUser).1 = .ok r ∧
      (∃ (g : Grant) (dn : String) (text : Password), g.user.dn = some dn ∧ some ("pearl" : Password) = some text ∧
        ((Scene.afterChange r).realm.manager.world.directory.checkPassword (.text dn) text.value = .ok () ∨
          (Scene.afterChange r).realm.Remembers dn text ∨
          (Scene.afterChange r).realm.settings.authentication = none ∧ dn = "") ∧
        ((Login.grant (some "ada") (some "pearl")).perform (Scene.afterChange r).realm).1 = .ok (some g)) ∧
      ∃ h c, (Scene.afterChange r).realm.manager.handle? 0 = some h ∧ h.connection = some c ∧
        (((Exchange.verify h.settings (Scene.afterChange r).realm.matcher ⟨none, some "uid=ada", none, [], none⟩
            (some "pearl")).perform ⟨c, (Scene.afterChange r).realm.manager.world⟩).1 = .ok true ↔
          c.bound = some ((Scene.afterChange r).realm.settings.loginIdentity "uid=ada" "pearl") ∨
            (Scene.afterChange r).realm.manager.world.directory.Accepts
              ((Scene.afterChange r).realm.settings.loginIdentity "uid=ada" "pearl")) := by
  have hrun : (((Realm.create {} ⟨0, .byPattern⟩ none).perform .withUser).1.toOption.any fun r =>
      let m := (Scene.afterChange r).realm.manager
      m.active.settings.userPassword.isNone && m.active.settings.authentication.isNone &&
      (((Login.authenticate (some "ada") (some "pearl")).perform (Scene.afterChange r).realm).1.toOption.any
        Option.isSome) &&
      (m.handle? 0).any (fun h => h.snapshot == m.active &&
        h.connection.any fun c => c.kind == .standard && c.namespaceName == "") &&
      m.world.faults.isEmpty && m.world.directory.fixedResponse.isNone) = true := by decide +kernel
  obtain ⟨r, hcreate, hrun⟩ := exists_ok_of_any hrun
  simp only [Bool.and_eq_true, Option.isNone_iff_eq_none, List.isEmpty_iff] at hrun
  obtain ⟨⟨⟨⟨⟨hstored, hauthentication⟩, hlogin⟩, hhandle⟩, hquiet⟩, hroot⟩ := hrun
  obtain ⟨value, hlogin, hvalue⟩ := exists_ok_of_any hlogin
  obtain ⟨p, rfl⟩ := Option.isSome_iff_exists.mp hvalue
  obtain ⟨h, hid, hhandle⟩ := (Option.any_eq_true _ _).mp hhandle
  obtain ⟨hsnapshot, hconnection⟩ := Bool.and_eq_true_iff.mp hhandle
  obtain ⟨c, hc, hconnection⟩ := (Option.any_eq_true _ _).mp hconnection
  obtain ⟨hkind, hname⟩ := Bool.and_eq_true_iff.mp hconnection
  -- the environment of the connection is that of the service, so the theorem applies to both
  have htheorem := login_fresh_or_remembered hcreate (Activity.loginAndChange r) rfl hstored (.inl hauthentication)
  refine ⟨r, hcreate, ?_, h, c, hid, hc, ?_⟩
  · obtain ⟨g, dn, text, hgrant, -, hdn, htext, hpast⟩ := htheorem.1 _ _ p hlogin
    exact ⟨g, dn, text, hdn, htext, hpast, hgrant⟩
  · exact htheorem.2 0 h c _ "uid=ada" "pearl" hid (eq_of_beq hsnapshot) hc (eq_of_beq hkind) (eq_of_beq hname) hquiet
      hroot rfl (by decide)

end DirectoryLogin

import DirectoryLogin.Proofs.Connection.Rebinding
import DirectoryLogin.Proofs.Realm.FreshCredentials
import DirectoryLogin.Settings.Load
/-!
# Which Mechanisms Check a Password

A password is checked by a bind as the user, under the mechanism of the service. Some mechanisms do not look at the
password: an anonymous bind has none, and a bind under a delegated credential brings its own proof. The check leaves
out the mechanism for delegated credentials, but it knows that mechanism by one spelling only, while binds read it
without case.

- `verifyByBind_binds`: the bind that a check sends, and when its answer is positive.
- `checksPasswordOf_iff`: the settings for which a positive check means that the directory accepted the password.
- `lower_case_mechanism_skips_password`: a check that accepts any password.
-/

namespace DirectoryLogin

/-! ## §1 The bind of a check -/

/-- A bind request that brings the name and the password to the directory. -/
def BindRequest.Carries (r : BindRequest) (dn : String) (password : Password) : Prop :=
  r.authentication = .simple ∧ r.user = .text dn ∧ r.password = password.value ∨
    r.authentication = .sasl ∧ r.mechanism = some .digestMd5 ∧
      r.saslCredentials = some [.null, .text dn, password.value, .null]

namespace Settings

/-- The bind of a check does not look at the password: it is anonymous, or one under a delegated credential. -/
def SkipsPassword (s : Settings) (dn : String) : Prop :=
  match s.authentication with
  | none => dn = ""
  | some name =>
    if name = delegationMechanism then dn = ""
    else Text.lower name = "none" ∨ Text.lower name ≠ "simple" ∧ Text.upper name = "GSSAPI"

end Settings

namespace BindRequest

/-- The request of an identity, by the name of its mechanism. -/
theorem ofIdentity_eq {i : Identity} {name : String} (h : mechanismOf i = .text name) :
    ofIdentity i =
      if Text.lower name = "none" then .ok { authentication := .anonymous }
      else if Text.lower name = "simple" then
        .ok { user := i.principal, password := i.credentials, authentication := .simple }
      else if Text.upper name = "GSSAPI" then
        .ok { authentication := .sasl, mechanism := some .gssapi,
              saslCredentials := if i.delegated.isPresent then some [.null, .null, i.delegated] else none }
      else if Text.upper name = "DIGEST-MD5" then
        .ok { authentication := .sasl, mechanism := some .digestMd5,
              saslCredentials := some [.null, i.principal, i.credentials, .null] }
      else .error (.configuration (.mechanism name)) := by
  have hname : i.toEnvironment.mechanism = .text name := h
  simp only [ofIdentity, ofEnvironment, hname, beq_iff_eq]
  rfl

/-- The name of the mechanism of a check. -/
theorem mechanismOf_checkIdentity (s : Settings) (dn : String) (password : Password) :
    mechanismOf (s.checkIdentity dn password) =
      .text (s.checkMechanism.getD (if dn = "" then "none" else "simple")) := by
  rw [Settings.checkIdentity, mechanismOf]
  rcases s.checkMechanism with _ | name
  · by_cases hdn : dn = "" <;> simp [Value.ofOption, Value.isGiven, hdn]
  · rfl

end BindRequest

/-- Whether the password is skipped, by the name of the mechanism of the check. -/
theorem Settings.skipsPassword_iff (s : Settings) (dn : String) {name : String}
    (hname : name = s.checkMechanism.getD (if dn = "" then "none" else "simple")) :
    s.SkipsPassword dn ↔ Text.lower name = "none" ∨ Text.lower name ≠ "simple" ∧ Text.upper name = "GSSAPI" := by
  -- without a mechanism of its own a check is a simple bind, or an anonymous one if there is no name
  have hdefault : (Text.lower (if dn = "" then "none" else "simple") = "none" ∨
      Text.lower (if dn = "" then "none" else "simple") ≠ "simple" ∧
        Text.upper (if dn = "" then "none" else "simple") = "GSSAPI") ↔ dn = "" := by
    have hnone : Text.lower "none" = "none" := by decide +kernel
    have hsimple : Text.lower "simple" = "simple" := by decide +kernel
    by_cases hdn : dn = "" <;> simp [hdn, hnone, hsimple]
  rw [hname, SkipsPassword, checkMechanism]
  rcases s.authentication with _ | mechanism
  · exact hdefault.symm
  · -- the mechanism for delegated credentials is dropped, and any other one is kept
    by_cases hdelegation : mechanism = delegationMechanism
    · have hdropped : Option.filter (· != delegationMechanism) (some mechanism) = none := by
        simp [Option.filter, hdelegation]
      rw [hdropped, Option.getD_none]
      dsimp only
      rw [if_pos hdelegation]
      exact hdefault.symm
    · have hkept : Option.filter (· != delegationMechanism) (some mechanism) = some mechanism := by
        simp [Option.filter, hdelegation]
      rw [hkept, Option.getD_some]
      dsimp only
      rw [if_neg hdelegation]

/-- **The bind of a check carries the password**, unless the mechanism skips it. -/
theorem BindRequest.carries_iff {s : Settings} {dn : String} {password : Password} {r : BindRequest}
    (hr : BindRequest.ofIdentity (s.checkIdentity dn password) = .ok r) :
    r.Carries dn password ↔ ¬ s.SkipsPassword dn := by
  rw [ofIdentity_eq (mechanismOf_checkIdentity s dn password)] at hr
  rw [s.skipsPassword_iff dn rfl]
  generalize s.checkMechanism.getD (if dn = "" then "none" else "simple") = name at hr ⊢
  -- the mechanisms in the order in which they are told apart; those without the password come first and third
  by_cases hnone : Text.lower name = "none"
  · rw [if_pos hnone] at hr
    cases hr
    simp [Carries, hnone]
  rw [if_neg hnone] at hr
  by_cases hsimple : Text.lower name = "simple"
  · rw [if_pos hsimple] at hr
    cases hr
    simp [Carries, hsimple, Settings.checkIdentity]
  rw [if_neg hsimple] at hr
  by_cases hgssapi : Text.upper name = "GSSAPI"
  · rw [if_pos hgssapi] at hr
    cases hr
    simp [Carries, hnone, hsimple, hgssapi]
  rw [if_neg hgssapi] at hr
  by_cases hdigest : Text.upper name = "DIGEST-MD5"
  · rw [if_pos hdigest] at hr
    cases hr
    simp [Carries, hnone, hgssapi, Settings.checkIdentity]
  · rw [if_neg hdigest] at hr
    cases hr

/-- A bind that skips the password is accepted by every directory that allows such binds at all. -/
theorem Settings.SkipsPassword.accepted {s : Settings} {dn : String} (h : s.SkipsPassword dn) (password : Password)
    {d : Directory} (hanonymous : d.denyAnonymous = false) (hsasl : d.denySasl = false) :
    d.Accepts (s.checkIdentity dn password) := by
  rw [s.skipsPassword_iff dn rfl] at h
  have hrequest := BindRequest.ofIdentity_eq (BindRequest.mechanismOf_checkIdentity s dn password)
  generalize s.checkMechanism.getD (if dn = "" then "none" else "simple") = name at h hrequest
  -- an anonymous bind is let in by whoever allows it
  rcases h with hnone | ⟨hsimple, hgssapi⟩
  · rw [if_pos hnone] at hrequest
    refine ⟨.null, _, hrequest, ?_⟩
    simp only [World.checkBind, hanonymous]
    rfl
  · -- so is a bind under a delegated credential, unless it goes by the name of the anonymous one
    by_cases hnone : Text.lower name = "none"
    · rw [if_pos hnone] at hrequest
      refine ⟨.null, _, hrequest, ?_⟩
      simp only [World.checkBind, hanonymous]
      rfl
    · rw [if_neg hnone, if_neg hsimple, if_pos hgssapi] at hrequest
      refine ⟨.null, _, hrequest, ?_⟩
      simp only [World.checkBind, hsasl]
      rfl

/-! ## §2 What a check sends -/

namespace Exchange

variable {s : Settings} {user : User} {dn : String} {password : Password} {ch ch' : Channel} {e : Sent}

/-- A bind that is due sends its request. -/
theorem sent_bind {r : BindRequest} (hbound : ch.connection.isBound = false)
    (hrequest : BindRequest.ofEnvironment ch.connection.environment = .ok r) :
    bind.sent ch =
      [⟨.bind r, ch.connection.environment, ch.world.accepts ch.connection.wire (.bind r)⟩] := by
  refine sent_of_events [.bind r] ?_
  simp only [bind_eq, hbound, Bool.false_eq_true, if_false, hrequest]
  rcases hanswer : (World.bindWire ch.connection.wire r).perform ch.world with ⟨answer, w⟩
  have hevents : w.events = ch.world.events ++ [⟨ch.connection.wire, .bind r⟩] := by
    by_cases haccepted : answer = .ok true
    · subst haccepted
      obtain ⟨user, -, rfl⟩ := World.of_bindWire_accepted hanswer
      simp
    · obtain rfl := World.of_bindWire_refused hanswer haccepted
      simp
  rcases answer with _ | _ | _ <;> exact hevents

/-- The read of a check sends nothing that is a bind, but for the bind before it. -/
theorem mem_sent_read_iff (hbind : e.IsBind) {names : Option (List String)} :
    e ∈ (read dn names).sent ch ↔ e ∈ bind.sent ch := by
  -- a read is no bind
  have hquery (c : Connection) (r : BindRequest) : readQuery c dn names ≠ .bind r := by
    unfold readQuery
    split <;> nofun
  rw [read_eq]
  have hstate (ch : Channel) := (readBound_state dn names ch).imp fun _ h => h.2
  -- either the bind ended the read, or its query came behind the bind
  rcases @sent_bind_query _ _ (fun c => readQuery c dn names) ch hstate hquery with ⟨hsent, -⟩ | ⟨c, w, w', -, -, hsent⟩
  · rw [hsent]
  · rw [hsent, List.mem_append]
    refine ⟨fun h => h.resolve_right fun hmem => ?_, .inl⟩
    obtain ⟨r, hr⟩ := hbind
    rw [List.mem_singleton.mp hmem] at hr
    exact hquery c r hr

/-- Whatever comes of the read, the check does nothing else. -/
theorem state_checkBound (ch : Channel) : (checkBound.perform ch).2 = ((read "" none).perform ch).2 := by
  rw [checkBound, Session.perform_rescue_if, Session.perform_bind]
  rcases (read "" none).perform ch with ⟨e | attributes, ch'⟩
  · dsimp only
    split <;> rfl
  · rfl

/-- So it sends what the read sends. -/
theorem sent_checkBound (ch : Channel) : checkBound.sent ch = (read "" none).sent ch := by
  rw [sent, state_checkBound]
  rfl

/-- A check with a name and a password runs in the environment of the user. -/
theorem verifyByBind_eq_of_given (hdn : user.dn = some dn) (hpassword : password ≠ "") :
    verifyByBind s user (some password) = bracketed (·.forCheck (some dn) (some password))
      (fun preserved e => (e.restore Environment.authentication (some preserved)).asService s) checkBound := by
  have hgiven : (user.dn.isNone || !(Value.ofPassword (some password)).isGiven) = false := by
    simp [hdn, Value.ofPassword, Password.isGiven_value_iff.mpr hpassword]
  rw [verifyByBind_eq, hgiven, hdn]
  rfl

/-- **The bind of a check.** If the user is not bound already, the only bind that a check sends is the one for the
identity of the check; a positive answer means that it was accepted. -/
theorem verifyByBind_binds (hdn : user.dn = some dn) (hpassword : password ≠ "")
    (htidy : ch.connection.environment.Tidy s) (hbound : ch.connection.bound = some ch.connection.environment.identity)
    (hdiffers : ch.connection.environment.identity ≠ s.checkIdentity dn password) {r : BindRequest}
    (hr : BindRequest.ofIdentity (s.checkIdentity dn password) = .ok r) (hbind : e.IsBind) :
    e ∈ (verifyByBind s user (some password)).sent ch ↔
      e = ⟨.bind r, ch.connection.environment, ch.world.accepts ch.connection.wire (.bind r)⟩ := by
  have hidentity := Environment.identity_forCheck_of_tidy (Environment.tidy_iff.mp htidy).1 dn password
  generalize hentered : ch.withEnvironment (ch.connection.environment.forCheck (some dn) (some password)) = entered
  have hunbound : entered.connection.isBound = false := by
    subst hentered
    have hsame : Identity.same (s.checkIdentity dn password) ch.connection.environment.identity = false := by
      refine Bool.eq_false_iff.mpr fun hsame => hdiffers ?_
      exact (s.checkIdentity_isTextual dn password).eq_of_matches (Identity.matches_of_same hsame)
    simpa [Connection.isBound, Channel.withEnvironment, hbound, hidentity] using hsame
  have hrequest : BindRequest.ofEnvironment entered.connection.environment = .ok r := by
    subst hentered
    rw [BindRequest.ofEnvironment_eq_ofIdentity]
    exact hidentity ▸ hr
  -- the brackets edit the environment only, so that the same requests are on record
  have hsent : (verifyByBind s user (some password)).sent ch =
      (checkBound.sent entered).map fun e => { e with environment := ch.connection.environment } := by
    subst hentered
    rw [verifyByBind_eq_of_given hdn hpassword, sent, sent, List.map_map]
    rfl
  rw [hsent, List.mem_map]
  constructor
  · rintro ⟨e', hmem, rfl⟩
    have hbind' : e'.IsBind := hbind
    rw [sent_checkBound, mem_sent_read_iff hbind', sent_bind hunbound hrequest] at hmem
    rw [List.mem_singleton.mp hmem, ← hentered]
    rfl
  · rintro rfl
    refine ⟨⟨.bind r, entered.connection.environment, entered.world.accepts entered.connection.wire (.bind r)⟩,
      ?_, ?_⟩
    · rw [sent_checkBound, mem_sent_read_iff ⟨r, rfl⟩, sent_bind hunbound hrequest]
      exact List.mem_singleton_self _
    · subst hentered
      rfl

/-- A positive check sent an accepted bind: the one for the identity of the check. -/
theorem accepts_of_verifyByBind_true (hdn : user.dn = some dn) (hpassword : password ≠ "")
    (htidy : ch.connection.environment.Tidy s) (hbound : ch.connection.bound = some ch.connection.environment.identity)
    (hdiffers : ch.connection.environment.identity ≠ s.checkIdentity dn password)
    (h : (verifyByBind s user (some password)).perform ch = (.ok true, ch')) :
    ∃ r, BindRequest.ofIdentity (s.checkIdentity dn password) = .ok r ∧
      ch.world.accepts ch.connection.wire (.bind r) = true := by
  have hidentity := Environment.identity_forCheck_of_tidy (Environment.tidy_iff.mp htidy).1 dn password
  rw [verifyByBind_eq_of_given hdn hpassword] at h
  have hresult : (checkBound.perform
      (ch.withEnvironment (ch.connection.environment.forCheck (some dn) (some password)))).1 = .ok true :=
    congrArg Prod.fst h
  obtain ⟨ch₁, hbind⟩ := bind_ok_of_checkBound (Prod.ext hresult rfl)
  have hrun := bind_run (ch.withEnvironment (ch.connection.environment.forCheck (some dn) (some password)))
  rw [hbind] at hrun
  cases hrun with
  | skipped hskipped =>
    -- the service is bound, so nobody else is
    obtain ⟨i, hi, hsame⟩ := (Option.any_eq_true _ _).mp hskipped
    have hi : ch.connection.bound = some i := hi
    have hsame : Identity.same (s.checkIdentity dn password) i = true := hidentity ▸ hsame
    rw [hbound, Option.some.injEq] at hi
    refine absurd ?_ hdiffers
    rw [hi]
    exact (s.checkIdentity_isTextual dn password).eq_of_matches (Identity.matches_of_same hsame)
  | accepted _ r w hrequest hanswer =>
    refine ⟨r, ?_, ?_⟩
    · rw [← hidentity]
      exact hrequest
    · have hanswer : (World.bindWire ch.connection.wire r).perform ch.world = (.ok true, w) := hanswer
      simp [World.accepts, hanswer]

end Exchange

/-! ## §3 The settings that check passwords -/

/-- **A positive check is worth something**: on any connection that is bound as the service, to any directory without
faults, a password is found correct only if a bind with that very name and that very password was sent, and
accepted. -/
def Settings.ChecksPasswordOf (s : Settings) (dn : String) : Prop :=
  ∀ (user : User) (password : Password) (ch ch' : Channel), user.dn = some dn → password ≠ "" →
    ch.world.faults = [] → ch.connection.environment.Tidy s →
    ch.connection.bound = some ch.connection.environment.identity →
    ch.connection.environment.identity ≠ s.checkIdentity dn password →
    (Exchange.verifyByBind s user (some password)).perform ch = (.ok true, ch') →
    ∃ e ∈ (Exchange.verifyByBind s user (some password)).sent ch, e.accepted = true ∧
      ∃ r, e.request = .bind r ∧ r.Carries dn password

/-- A connection of the service to a directory that knows nobody. -/
def Settings.serviceChannel (s : Settings) : Channel where
  connection :=
    { wire := 1, environment := Environment.ofSettings s 0, bound := some (Environment.ofSettings s 0).identity }
  world := { wires := [{ isOpen := true }] }

/-- A text that is not the password of the service. -/
def Settings.otherPassword (s : Settings) : String :=
  s.connectionPassword.getD "" ++ "x"

/-- The service is an identity of texts. -/
theorem Environment.identity_ofSettings_isTextual (s : Settings) (attempt : Int) :
    (Environment.ofSettings s attempt).identity.IsTextual := by
  have hvalue (o : Option String) : ((o.map Value.text).getD .null).IsTextual := by
    cases o with
    | none => exact .inl rfl
    | some t => exact .inr ⟨t, rfl⟩
  -- each of the four values comes from a setting, or is absent
  constructor
  · change (((ofSettings s attempt).get? principal).getD .null).IsTextual
    rw [get?_ofSettings_principal]
    exact hvalue _
  · change (((ofSettings s attempt).get? credentials).getD .null).IsTextual
    rw [get?_ofSettings_credentials]
    exact hvalue _
  · change (((ofSettings s attempt).get? authentication).getD .null).IsTextual
    rw [get?_ofSettings_authentication]
    exact hvalue _
  · change (((ofSettings s attempt).get? delegated).getD .null).IsTextual
    rw [get?_ofSettings_delegation s attempt (by decide)]
    exact .inl rfl

theorem Settings.identity_ne_checkIdentity (s : Settings) (dn : String) :
    (Environment.ofSettings s 0).identity ≠ s.checkIdentity dn s.otherPassword := by
  intro heq
  have hcredentials : (Environment.ofSettings s 0).value Environment.credentials = .text s.otherPassword :=
    congrArg Identity.credentials heq
  rw [Environment.value, Environment.get?_ofSettings_credentials, otherPassword] at hcredentials
  rcases hpassword : s.connectionPassword with _ | t
  · rw [hpassword] at hcredentials
    cases hcredentials
  · rw [hpassword] at hcredentials
    have hlonger : t = t ++ "x" := Value.text.inj hcredentials
    simpa using congrArg String.length hlonger

/-- **The settings that check passwords** are exactly those whose mechanism does not skip them. The mechanism for
delegated credentials is left out in its usual spelling only; in any other one, and likewise for anonymous binds, every
password is found correct. -/
theorem checksPasswordOf_iff (s : Settings) (dn : String) : s.ChecksPasswordOf dn ↔ ¬ s.SkipsPassword dn := by
  constructor
  · intro hchecks hskips
    -- a directory that knows nobody finds any password correct
    have hdiffers := s.identity_ne_checkIdentity dn
    have htidy : (Environment.ofSettings s 0).Tidy s := ⟨0, .inl rfl, .refl _⟩
    have hidentity := Environment.identity_forCheck_of_tidy (Environment.tidy_iff.mp htidy).1 dn s.otherPassword
    have hpassword : (s.otherPassword : Password) ≠ "" := by
      intro h
      simpa [Settings.otherPassword] using congrArg String.length (Password.text.inj h)
    obtain ⟨r, hr⟩ : ∃ r, BindRequest.ofIdentity (s.checkIdentity dn s.otherPassword) = .ok r := by
      obtain ⟨_, r, hr, -⟩ := hskips.accepted s.otherPassword (d := {}) rfl rfl
      exact ⟨r, hr⟩
    let user : User := ⟨none, some dn, none, [], none⟩
    have hdn : user.dn = some dn := rfl
    have hpositive : ((Exchange.verifyByBind s user (some s.otherPassword)).perform s.serviceChannel).1 = .ok true := by
      rw [Exchange.verifyByBind_eq_of_given hdn hpassword]
      refine Exchange.checkBound_true_of_bind_ok (Exchange.bind_ok_of_bound_or_accepts rfl ?_ (.inr ?_)) rfl rfl rfl rfl
      · exact hidentity ▸ s.checkIdentity_isTextual dn s.otherPassword
      · exact hidentity ▸ hskips.accepted s.otherPassword rfl rfl
    obtain ⟨e, hmem, -, q, hq, hcarries⟩ :=
      hchecks user s.otherPassword s.serviceChannel _ hdn hpassword rfl htidy rfl hdiffers (Prod.ext hpositive rfl)
    rw [Exchange.verifyByBind_binds hdn hpassword htidy rfl hdiffers hr ⟨q, hq⟩] at hmem
    rw [hmem] at hq
    cases hq
    exact (BindRequest.carries_iff hr).mp hcarries hskips
  · intro hlooks user password ch ch' hdn hpassword _ htidy hbound hdiffers h
    obtain ⟨r, hr, haccepted⟩ := Exchange.accepts_of_verifyByBind_true hdn hpassword htidy hbound hdiffers h
    refine ⟨_, (Exchange.verifyByBind_binds hdn hpassword htidy hbound hdiffers hr ⟨r, rfl⟩).mpr rfl, haccepted, r,
      rfl, ?_⟩
    exact (BindRequest.carries_iff hr).mpr hlooks

/-! ### A mechanism in another spelling -/

/-- Settings that name the mechanism for delegated credentials in lower case. -/
def Settings.lowerCaseMechanism : Settings where
  connectionUrl := some "ldap://directory"
  authentication := some "gssapi"

/-- A user whom the directory knows. -/
def User.ada : User :=
  ⟨some "ada", some "uid=ada", none, [], none⟩

/-- Settings that can be loaded, and a connection that was opened for them, over which a wrong password is found
correct: no bind that carries it was sent. -/
theorem lower_case_mechanism_skips_password :
    (Settings.load [("connection_url", .text "ldap://directory"), ("authentication", .text "gssapi")] []).toOption =
        some .lowerCaseMechanism ∧
      ∃ c w, (Connection.openWith .standard none (Environment.ofSettings .lowerCaseMechanism 0)).perform .withUser =
          (.ok c, w) ∧
        w.faults = [] ∧ c.environment.Tidy .lowerCaseMechanism ∧
        c.bound = some c.environment.identity ∧
        c.environment.identity ≠ Settings.lowerCaseMechanism.checkIdentity "uid=ada" "wrong" ∧
        ((Exchange.verifyByBind .lowerCaseMechanism .ada (some "wrong")).perform ⟨c, w⟩).1 = .ok true ∧
        ∀ e ∈ (Exchange.verifyByBind .lowerCaseMechanism .ada (some "wrong")).sent ⟨c, w⟩,
          ∀ r, e.request = .bind r → ¬ r.Carries "uid=ada" "wrong" := by
  refine ⟨by decide +kernel, ?_⟩
  have hrun : ((Connection.openWith .standard none (Environment.ofSettings .lowerCaseMechanism 0)).perform
      .withUser).1.toOption.any (fun c =>
        let w := ((Connection.openWith .standard none (Environment.ofSettings .lowerCaseMechanism 0)).perform
          .withUser).2
        w.faults.isEmpty && c.bound.any (c.environment.identity.same ·) &&
          ((Exchange.verifyByBind .lowerCaseMechanism .ada (some "wrong")).perform ⟨c, w⟩).1.toOption == some true) =
      true := by decide +kernel
  -- the connection is bound as the service, and the check says yes
  obtain ⟨c, hopen, hrun⟩ := exists_ok_of_any hrun
  simp only [Bool.and_eq_true, List.isEmpty_iff] at hrun
  obtain ⟨⟨hquiet, hbound⟩, hpositive⟩ := hrun
  generalize hworld : ((Connection.openWith .standard none (Environment.ofSettings .lowerCaseMechanism 0)).perform
    .withUser).2 = w at hquiet hpositive
  have hopen : (Connection.openWith .standard none (Environment.ofSettings .lowerCaseMechanism 0)).perform .withUser =
      (.ok c, w) := Prod.ext hopen hworld
  have hopened := Connection.openWith_opened hopen
  have htidy : c.environment.Tidy .lowerCaseMechanism := ⟨0, .inl rfl, hopened.environment⟩
  have hidentity := hopened.environment.identity_eq
  -- the service is an identity of texts, so to pass the comparison with it is to be it
  have htextual : c.environment.identity.IsTextual := by
    rw [hidentity]
    exact Environment.identity_ofSettings_isTextual _ _
  have hbound : c.bound = some c.environment.identity := by
    obtain ⟨i, hi, hsame⟩ := (Option.any_eq_true _ _).mp hbound
    rw [hi, htextual.eq_of_matches (Identity.matches_of_same hsame)]
  have hdiffers : c.environment.identity ≠ Settings.lowerCaseMechanism.checkIdentity "uid=ada" "wrong" := by
    rw [hidentity]
    exact fun h => nomatch congrArg Identity.principal h
  -- in lower case the mechanism is not recognised, so it stays and skips the password
  have hskips : Settings.lowerCaseMechanism.SkipsPassword "uid=ada" := by
    have hlower : Text.lower "gssapi" ≠ "simple" ∧ Text.upper "gssapi" = "GSSAPI" := by decide +kernel
    exact .inr hlower
  have hpositive : ((Exchange.verifyByBind .lowerCaseMechanism .ada (some "wrong")).perform ⟨c, w⟩).1 = .ok true := by
    rcases hresult : ((Exchange.verifyByBind .lowerCaseMechanism .ada (some "wrong")).perform ⟨c, w⟩).1 with _ | answer
    · rw [hresult] at hpositive
      cases hpositive
    · rw [hresult] at hpositive
      have hanswer : answer = true := Option.some.inj (eq_of_beq hpositive)
      rw [hanswer]
  -- the only bind is the one for the identity of the check, and it does not carry the password
  refine ⟨c, w, hopen, hquiet, htidy, hbound, hdiffers, hpositive, fun e he q hq => ?_⟩
  obtain ⟨_, r, hr, -⟩ := hskips.accepted "wrong" (d := {}) rfl rfl
  rw [Exchange.verifyByBind_binds rfl (by decide) htidy hbound hdiffers hr ⟨q, hq⟩] at he
  rw [he] at hq
  cases hq
  exact fun hcarries => (BindRequest.carries_iff hr).mp hcarries hskips

end DirectoryLogin

import DirectoryLogin.Proofs.Connection.Reads
import DirectoryLogin.Proofs.Realm.CheckedPasswords
/-!
# What a Check by a Bind Says

A password is checked by reading something as the user: the read binds, and nobody is interested in what it returns. But
what it reads is the entry under the connection's own name, which is the root only where the URL of the directory has no
path. So after an accepted bind the check still depends on that entry: whether it exists, and whether the user may read
it.

- `Directory.Verdict`: what a check may come to, and why.
- `Exchange.verifyByBind_verdict`: over an honest connection without faults, a check comes to that.
- `verdict_of_bind_iff`: on a new connection, the verdict is that of the bind exactly if the user is shown the
  connection's own entry.
-/

namespace DirectoryLogin

/-- What a check of a password for the name `dn` comes to, on a connection whose own name is `own`. -/
inductive Directory.Verdict (d : Directory) (dn : String) (password : Password) (own : String) :
    Except Failure Bool → Prop
  /-- The directory does not accept the password. -/
  | refused (h : d.checkPassword (.text dn) password.value ≠ .ok ()) : Verdict d dn password own (.ok false)
  /-- The directory accepts the password, and shows the connection's own entry. -/
  | accepted (h : d.checkPassword (.text dn) password.value = .ok ()) (hshows : d.Shows dn own) :
    Verdict d dn password own (.ok true)
  /-- The directory accepts the password, but withholds the connection's own entry. -/
  | withheld (h : d.checkPassword (.text dn) password.value = .ok ()) (hwithholds : d.Withholds dn own) :
    Verdict d dn password own (.ok false)
  /-- The directory accepts the password, but there is no such entry to be had. -/
  | failed (h : d.checkPassword (.text dn) password.value = .ok ()) (hshows : ¬ d.Shows dn own)
    (hwithholds : ¬ d.Withholds dn own) (e : Failure) : Verdict d dn password own (.error e)

theorem Directory.isOk_checkPassword_iff {d : Directory} {user password : Value} :
    (d.checkPassword user password).isOk = true ↔ d.checkPassword user password = .ok () := by
  rcases d.checkPassword user password with error | _
  · exact iff_of_false nofun nofun
  · exact iff_of_true rfl rfl

/-- Where the connection's own entry is shown, the verdict is that of the bind. -/
theorem Directory.Verdict.eq_of_shows {d : Directory} {dn : String} {password : Password} {own : String}
    {verdict : Except Failure Bool} (h : d.Verdict dn password own verdict) (hshows : d.Shows dn own) :
    verdict = .ok (d.checkPassword (.text dn) password.value).isOk := by
  cases h with
  | refused h => rw [Bool.eq_false_iff.mpr (mt isOk_checkPassword_iff.mp h)]
  | accepted h => rw [isOk_checkPassword_iff.mpr h]
  | withheld h hwithholds => exact absurd hshows hwithholds.not_shows
  | failed h hnot => exact absurd hshows hnot

/-! ## §1 The bind of a check -/

section Bind

variable {s : Settings} {d : Directory} {e : Environment} {dn : String} {password : Password}

/-- **The bind of a login** comes to what the directory makes of the name and the password. -/
theorem Directory.bindOutcome_login (hsimple : s.BindsSimply) (hname : dn ≠ "")
    (hidentity : e.identity = s.loginIdentity dn password) :
    d.bindOutcome e = ((d.checkPassword (.text dn) password.value).map fun _ => .text dn).mapError
      fun error => error.toFailure e.throwsReferrals := by
  have hrequest : BindRequest.ofEnvironment e =
      .ok { user := .text dn, password := password.value, authentication := .simple } := by
    rw [BindRequest.ofEnvironment_eq_ofIdentity, hidentity]
    exact BindRequest.ofIdentity_loginIdentity hsimple (fun h => hname h.2) password
  rw [bindOutcome, hrequest]
  change (World.checkBind d _).mapError _ = _
  simp only [World.checkBind]
  rcases d.checkPassword (.text dn) password.value with error | _ <;> rfl

/-- A password that is not accepted is refused with an error about the identity. -/
theorem Directory.kind_of_checkPassword {user password : Value} {error : ClientError}
    (h : d.checkPassword user password = .error error) (throwsReferrals : Bool) :
    (error.toFailure throwsReferrals).directoryKind? = some .authentication := by
  unfold checkPassword at h
  split_ifs at h <;> cases h <;>
    simp [ClientError.toFailure, Failure.directoryKind?, DirectoryFault.kind, ClientError.kind, authenticationErrors]

end Bind

/-! ## §2 The check -/

namespace Exchange

variable {s : Settings} {user : User} {dn : String} {password : Password} {ch : Channel}

/-- The check is the read of the connection's own entry. A failure that is about the identity is a negative answer. -/
theorem result_checkBound (hquiet : ch.world.faults = []) (hhonest : ch.Honest)
    (hkind : ch.connection.kind = .standard) :
    (checkBound.perform ch).1 =
      match ch.world.directory.readOutcome ch.connection "" none with
      | .ok _ => .ok true
      | .error e => if e.directoryKind? == some .authentication then .ok false else .error e := by
  have hread := read_outcome hquiet hhonest hkind "" none
  rw [checkBound, Session.perform_rescue_if, Session.perform_bind]
  rcases hrun : (read "" none).perform ch with ⟨e | attributes, ch'⟩
  all_goals
    rw [hrun] at hread
    rw [← hread]
  · dsimp only
    split <;> rfl
  · rfl

/-- The check comes to what the directory makes of the login whose identity is in the environment. -/
theorem checkBound_verdict (hsimple : s.BindsSimply) (hname : dn ≠ "")
    (hidentity : ch.connection.environment.identity = s.loginIdentity dn password) (hquiet : ch.world.faults = [])
    (hhonest : ch.Honest) (hkind : ch.connection.kind = .standard)
    (hordinary : ch.world.directory.fixedResponse = none) :
    ch.world.directory.Verdict dn password ch.connection.namespaceName (checkBound.perform ch).1 := by
  have hbind := ch.world.directory.bindOutcome_login hsimple hname hidentity
  rw [result_checkBound hquiet hhonest hkind]
  rcases hpassword : ch.world.directory.checkPassword (.text dn) password.value with error | _
  · -- the bind is refused, so that nothing is read
    have hrefused := Directory.kind_of_checkPassword hpassword ch.connection.environment.throwsReferrals
    have hread : ch.world.directory.readOutcome ch.connection "" none =
        .error (error.toFailure ch.connection.environment.throwsReferrals) := by
      rw [Directory.readOutcome, hbind, hpassword]
      rfl
    simp only [hread, hrefused, beq_self_eq_true, if_true]
    exact .refused (by simp [hpassword])
  · rw [hpassword] at hbind
    rcases readOutcome_own hordinary hbind with ⟨hshows, attributes, hread⟩ | ⟨hshows, e, hread, hwithholds⟩
    · rw [hread]
      exact .accepted hpassword hshows
    rw [hread]
    dsimp only
    by_cases hwithheld : ch.world.directory.Withholds dn ch.connection.namespaceName
    · rw [if_pos (beq_iff_eq.mpr (hwithholds.mpr hwithheld))]
      exact .withheld hpassword hwithheld
    · rw [if_neg (mt beq_iff_eq.mp (mt hwithholds.mp hwithheld))]
      exact .failed hpassword hshows hwithheld e

/-- **What a check comes to** over an honest connection without faults. -/
theorem verifyByBind_verdict (hsimple : s.BindsSimply) (htidy : ch.connection.environment.TidyButIdentity s)
    (hquiet : ch.world.faults = []) (hhonest : ch.Honest) (hkind : ch.connection.kind = .standard)
    (hordinary : ch.world.directory.fixedResponse = none) (hdn : user.dn = some dn) (hname : dn ≠ "")
    (hgiven : password ≠ "") :
    ch.world.directory.Verdict dn password ch.connection.namespaceName
      ((verifyByBind s user (some password)).perform ch).1 := by
  -- the check runs in an edited environment, and only the environment is edited
  have hentered := Channel.steady_withEnvironment ch (ch.connection.environment.forCheck (some dn) (some password))
  have hverdict := checkBound_verdict hsimple hname (Environment.identity_forCheck hsimple htidy dn password)
    (hentered.world.quiet hquiet) (hentered.honest hhonest) (hentered.kind.trans hkind) hordinary
  rw [verifyByBind_eq_of_given hdn hgiven]
  exact hverdict

end Exchange

/-! ## §3 The theorem -/

open Exchange

/-- **The verdict is that of the bind** exactly as far as the connection's own entry is shown. Take a new connection for
settings with simple binds, in a world without faults, and check a password for a user with a name. If the directory
refuses the password, the answer is negative. If it accepts it, the answer is positive exactly if the directory shows
the user the entry under the connection's own name; it is negative if that entry is guarded against the user, and
otherwise there is a failure instead of an answer. Where the URL has no path this is the root, which is always shown. -/
theorem verdict_of_bind_iff {policy : Option TlsArguments} {s : Settings} {w w' : World} {c : Connection} {user : User}
    {dn : String} {password : Password} (hsimple : s.BindsSimply) (hquiet : w.faults = [])
    (hordinary : w.directory.fixedResponse = none)
    (hopen : (Connection.establish .standard policy s).perform w = (.ok c, w')) (hdn : user.dn = some dn)
    (hname : dn ≠ "") (hgiven : password ≠ "") :
    let verdict := ((verifyByBind s user (some password)).perform ⟨c, w'⟩).1
    let accepted := (w.directory.checkPassword (.text dn) password.value).isOk
    (accepted = false → verdict = .ok false) ∧
    (accepted = true → (verdict = .ok true ↔ w.directory.Shows dn c.namespaceName) ∧
      (verdict = .ok false ↔ w.directory.Withholds dn c.namespaceName)) ∧
    (verdict = .ok accepted ↔ accepted = true → w.directory.Shows dn c.namespaceName) ∧
    (c.namespaceName = "" → w.directory.Shows dn c.namespaceName) := by
  -- what opened the connection has left the world as the check needs it
  obtain ⟨attempt, w₀, hattempt, hextends, hopened⟩ := Connection.establish_opened hopen
  have htidy := (Environment.tidy_iff.mp ⟨attempt, hattempt, hopened.environment⟩).1
  have hquiet' : w'.faults = [] := hopened.world.quiet (hextends.quiet hquiet)
  have hdirectory : w'.directory = w.directory := hopened.world.directory.trans hextends.directory
  have hverdict := verifyByBind_verdict hsimple htidy hquiet' hopened.honest hopened.kind
    (hdirectory ▸ hordinary) hdn hname hgiven
  dsimp only at hverdict ⊢
  rw [hdirectory] at hverdict
  generalize ((verifyByBind s user (some password)).perform ⟨c, w'⟩).1 = verdict at hverdict ⊢
  rw [← and_assoc, ← and_assoc]
  refine ⟨?_, .inl⟩
  -- in each case both sides of the equivalences are known
  cases hverdict with
  | refused h =>
    rw [Bool.eq_false_iff.mpr (mt Directory.isOk_checkPassword_iff.mp h)]
    exact ⟨⟨fun _ => rfl, nofun⟩, iff_of_true rfl nofun⟩
  | accepted h hshows =>
    rw [Directory.isOk_checkPassword_iff.mpr h]
    refine ⟨⟨nofun, fun _ => ⟨iff_of_true rfl hshows, iff_of_false nofun fun h => h.not_shows hshows⟩⟩, ?_⟩
    exact iff_of_true rfl fun _ => hshows
  | withheld h hwithholds =>
    rw [Directory.isOk_checkPassword_iff.mpr h]
    refine ⟨⟨nofun, fun _ => ⟨iff_of_false nofun hwithholds.not_shows, iff_of_true rfl hwithholds⟩⟩, ?_⟩
    exact iff_of_false nofun fun h => hwithholds.not_shows (h rfl)
  | failed h hshows hwithholds e =>
    rw [Directory.isOk_checkPassword_iff.mpr h]
    refine ⟨⟨nofun, fun _ => ⟨iff_of_false nofun hshows, iff_of_false nofun hwithholds⟩⟩, ?_⟩
    exact iff_of_false nofun fun h => hshows (h rfl)

/-! ### Runs -/

/-- Settings of a service whose URL has a path. -/
def Settings.withPath : Settings where
  connectionUrl := some "ldap://directory/dc=example"

/-- A user whose name is known. -/
def User.named (dn : String) : User where
  username := some "ada"
  dn := some dn

/-- A world that knows one user, and has an entry under the path; the names given are guarded. -/
def World.withOwnEntry (guarded : List String) : World where
  directory :=
    { passwords := [("uid=ada", "pearl")]
      entries := [("dc=example", [])]
      guarded := guarded }

/-- The new connection for these settings. -/
def World.opened (w : World) (s : Settings) : Except Failure Connection × World :=
  (Connection.establish .standard none s).perform w

/-- Where the entry under the path is shown to everybody, the verdict is that of the bind. -/
theorem verdict_of_shown_entry :
    ∃ c w', (World.withOwnEntry []).opened .withPath = (.ok c, w') ∧ c.namespaceName = "dc=example" ∧
      ((verifyByBind .withPath (.named "uid=ada") (some "pearl")).perform ⟨c, w'⟩).1 = .ok true := by
  have hname : (((World.withOwnEntry []).opened .withPath).1.toOption.any
      fun c => c.namespaceName = "dc=example") = true := by decide +kernel
  rcases hopen : (World.withOwnEntry []).opened .withPath with ⟨e | c, w'⟩
  · rw [hopen] at hname
    cases hname
  · rw [hopen] at hname
    have hname : c.namespaceName = "dc=example" := of_decide_eq_true hname
    -- the bind is accepted, so the verdict hangs on the entry that the root read goes to
    have hverdict := verdict_of_bind_iff (.inl rfl) rfl rfl hopen
      (rfl : (User.named "uid=ada").dn = some "uid=ada") (by decide) (by decide : Password.text "pearl" ≠ "")
    have hshows : (World.withOwnEntry []).directory.Shows "uid=ada" c.namespaceName := by
      rw [hname]
      exact .inr ⟨List.not_mem_nil, fun h => absurd h List.not_mem_nil, List.not_mem_nil, rfl⟩
    exact ⟨c, w', rfl, hname, (hverdict.2.1 (by decide +kernel)).1.mpr hshows⟩

/-- Where it is guarded, the right password is refused: the directory accepts the bind, but the check does not pass. -/
theorem right_password_refused_below_path :
    Settings.BindsSimply .withPath ∧ (World.withOwnEntry ["dc=example"]).faults = [] ∧
      (World.withOwnEntry ["dc=example"]).directory.checkPassword (.text "uid=ada") (.text "pearl") = .ok () ∧
      ∃ c w', (World.withOwnEntry ["dc=example"]).opened .withPath = (.ok c, w') ∧
        c.environment.identity ≠ Settings.loginIdentity .withPath "uid=ada" "pearl" ∧
        ((verifyByBind .withPath (.named "uid=ada") (some "pearl")).perform ⟨c, w'⟩).1 = .ok false := by
  refine ⟨.inl rfl, rfl, by decide +kernel, ?_⟩
  -- the connection is opened and the check is run
  have hrun : (((World.withOwnEntry ["dc=example"]).opened .withPath).1.toOption.any fun c =>
      c.environment.identity.principal.text? = none ∧
        ((verifyByBind .withPath (.named "uid=ada") (some "pearl")).perform
          ⟨c, ((World.withOwnEntry ["dc=example"]).opened .withPath).2⟩).1 = .ok false) = true := by decide +kernel
  rcases hopen : (World.withOwnEntry ["dc=example"]).opened .withPath with ⟨e | c, w'⟩
  · rw [hopen] at hrun
    cases hrun
  · rw [hopen] at hrun
    obtain ⟨hnobody, hverdict⟩ := of_decide_eq_true hrun
    -- the connection is not bound as the user, since it has nobody's name
    refine ⟨c, w', rfl, fun h => ?_, hverdict⟩
    rw [h] at hnobody
    cases hnobody

end DirectoryLogin

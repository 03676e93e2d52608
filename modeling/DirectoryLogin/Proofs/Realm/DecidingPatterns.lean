import DirectoryLogin.Proofs.Programs
/-!
# The Pattern that Decides

A user may be looked up by several patterns, one after the other. Where attributes are read, an entry that has been
read is known to exist, and what comes of it should be the answer: the patterns behind it have no say any more. That is
so unless checking the password or finding the roles fails with a name that cannot be read. Such a failure is taken
for one of the pattern itself, and the patterns behind it are tried after all.

- `Exchange.Passed`: some patterns have been tried, and none has led to an entry.
- `Exchange.Passed.authenticate_eq`: from there on, what the patterns passed were does not matter.
- `first_read_entry_decides`: after an entry has been read, the answer is that of its user, whatever patterns follow;
  only after an unreadable name it is that of the patterns that follow.
-/

namespace DirectoryLogin

/-- The handle with other patterns of names of users. -/
def Handle.withPatterns (h : Handle) (patterns : List Template) : Handle :=
  { h with templates := { h.templates with userPatterns := some patterns } }

namespace Exchange

variable {h h' : Handle} {m : Matcher} {username : String} {password : Password} {patterns patterns' : List Template}
  {i : Nat} {ch ch₁ ch₂ ch₃ : Channel} {user : User}

/-! ## §1 One pattern -/

/-- A grant is for the user whose password was checked. -/
theorem user_of_authenticateUser {g : Grant}
    (hrun : (authenticateUser h m username password user).perform ch = (.ok (some g), ch₁)) : g.user = user := by
  obtain ⟨verified, ch₂, -, hrest⟩ := Session.of_perform_bind_ok hrun
  cases verified with
  | true =>
    obtain ⟨principal, ch₃, -, hreturn⟩ := Session.of_perform_bind_ok hrest
    cases hreturn
    rfl
  | false => cases hrest

/-- What is said when a name cannot be read while the user of a pattern is authenticated. -/
def invalidNameWarning (username : String) (i : Nat) (e : Failure) : Message :=
  ⟨.warning, .realm,
    "Invalid name for user " ++ username ++ " with pattern " ++ toString i ++ ": " ++ e.message⟩

/-- **A pattern with an entry** ends as authenticating its user does. A name that cannot be read is reported, and then
the pattern counts as one without an entry. -/
theorem tryPattern_of_user
    (hread : (getUser h (some username) (some password) i).perform ch₁ = (.ok (some user), ch₂)) :
    (tryPattern h m username password i).perform ch₁ =
      match (authenticateUser h m username password user).perform ch₂ with
      | (.ok (some g), ch₃) => (.ok (.accepted g), ch₃)
      | (.ok none, ch₃) => (.ok .rejected, ch₃)
      | (.error e, ch₃) =>
        if e.directoryKind? == some .invalidName then
          (.ok .unresolved, { ch₃ with world := ch₃.world.write (invalidNameWarning username i e) })
        else (.error e, ch₃) := by
  rw [tryPattern, Session.perform_rescue_if, Session.perform_bind_of_ok hread]
  rcases hrun : (authenticateUser h m username password user).perform ch₂ with ⟨e | _ | g, ch₃⟩
  · dsimp only
    rw [Session.perform_bind_of_error hrun]
    -- a name that is invalid leaves the user open, and any other failure ends the login
    by_cases hname : (e.directoryKind? == some .invalidName) = true
    · simp only [hname, if_true]
      rfl
    · simp only [hname]
      rfl
  · dsimp only
    rw [Session.perform_bind_of_ok hrun]
    rfl
  · dsimp only
    rw [Session.perform_bind_of_ok hrun]
    rfl

/-! ## §2 Other patterns -/

theorem getUser_eq_byPattern (hpatterns : h.templates.userPatterns = some patterns) (username : Option String)
    (password : Option Password) (i : Nat) :
    getUser h username password i = do
      let user ← userByPattern h username password h.settings.attributeIds i
      return user.map (keepPassword h.settings password) := by
  unfold getUser
  simp [hpatterns]

/-- The user of a pattern depends on no other pattern. -/
theorem getUser_withPatterns (hpatterns : h.templates.userPatterns = some patterns)
    (hsame : patterns'[i]? = patterns[i]?) (username : Option String) (password : Option Password) :
    getUser (h.withPatterns patterns') username password i = getUser h username password i := by
  have hbyPattern (ids : List String) :
      userByPattern (h.withPatterns patterns') username password ids i = userByPattern h username password ids i := by
    cases username with
    | none => rfl
    | some name =>
      -- the pattern at `i` is the same in both lists
      have hat : patternAt patterns' i = patternAt patterns i := by
        simp only [patternAt, Int.natCast_nonneg, if_true, Int.toNat_natCast, hsame]
      simp only [userByPattern, hpatterns, Handle.withPatterns, hat]
      rfl
  have hpatterns' : (h.withPatterns patterns').templates.userPatterns = some patterns' := rfl
  rw [getUser_eq_byPattern hpatterns, getUser_eq_byPattern hpatterns', hbyPattern]
  rfl

/-- So does authenticating a user that was found. -/
theorem authenticateUser_withPatterns (h : Handle) (patterns' : List Template) (m : Matcher)
    (username : String) (password : Password) (user : User) :
    authenticateUser (h.withPatterns patterns') m username password user =
      authenticateUser h m username password user := rfl

theorem tryPattern_withPatterns (hpatterns : h.templates.userPatterns = some patterns)
    (hsame : patterns'[i]? = patterns[i]?) :
    tryPattern (h.withPatterns patterns') m username password i = tryPattern h m username password i := by
  simp only [tryPattern, getUser_withPatterns hpatterns hsame, authenticateUser_withPatterns]

/-! ## §3 Patterns without an entry -/

/-- The patterns with smaller numbers have been tried, and none of them has led to an entry. -/
inductive Passed (h : Handle) (m : Matcher) (username : String) (password : Password) : Nat → Channel → Channel → Prop
  | start {ch : Channel} : Passed h m username password 0 ch ch
  | next {i : Nat} {ch ch₁ ch₂ : Channel} (hpassed : Passed h m username password i ch ch₁)
      (hunresolved : (tryPattern h m username password i).perform ch₁ = (.ok .unresolved, ch₂)) :
      Passed h m username password (i + 1) ch ch₂

namespace Passed

/-- Patterns that were passed would be passed again, if the later ones were others. -/
theorem withPatterns (hpassed : Passed h m username password i ch ch₁)
    (hpatterns : h.templates.userPatterns = some patterns) (hsame : ∀ j < i, patterns'[j]? = patterns[j]?) :
    Passed (h.withPatterns patterns') m username password i ch ch₁ := by
  induction hpassed with
  | start => exact .start
  | @next i ch ch₁ ch₂ _ hunresolved ih =>
    refine .next (ih fun j hj => hsame j (Nat.lt_succ_of_lt hj)) ?_
    rw [tryPattern_withPatterns hpatterns (hsame i (Nat.lt_succ_self i))]
    exact hunresolved

/-- **After the patterns that were passed** it is up to those that are left. -/
theorem authenticate_eq (hpassed : Passed h m username password i ch ch₁)
    (hpatterns : h.templates.userPatterns = some patterns) (hi : i ≤ patterns.length) :
    (authenticate h m username password).perform ch =
      (authenticateByPatterns h m username password i (patterns.drop i)).perform ch₁ := by
  induction hpassed with
  | start =>
    unfold authenticate
    rw [hpatterns]
    rfl
  | @next i ch ch₁ ch₂ _ hunresolved ih =>
    have hlt : i < patterns.length := hi
    rw [ih (Nat.le_of_lt hlt), List.drop_eq_getElem_cons hlt, authenticateByPatterns,
      Session.perform_bind_of_ok hunresolved]

end Passed

/-! ## §4 The pattern with an entry -/

section Resolved

variable {result : Except Failure (Option Grant)}
  (hpatterns : h.templates.userPatterns = some patterns) (hi : i < patterns.length)
  (hpassed : Passed h m username password i ch ch₁)
  (hread : (getUser h (some username) (some password) i).perform ch₁ = (.ok (some user), ch₂))
  (hrun : (authenticateUser h m username password user).perform ch₂ = (result, ch₃))
include hpatterns hi hpassed hread hrun

/-- The login ends with the user whose entry was read, unless a name cannot be read. -/
theorem authenticate_of_read (hreads : h.settings.attributeIds ≠ [])
    (hnames : ∀ e, result = .error e → e.directoryKind? ≠ some .invalidName) :
    (authenticate h m username password).perform ch = (result, ch₃) := by
  have htry := tryPattern_of_user (m := m) hread
  rw [hrun] at htry
  rw [hpassed.authenticate_eq hpatterns (Nat.le_of_lt hi), List.drop_eq_getElem_cons hi, authenticateByPatterns]
  rcases result with e | _ | g
  · -- the failure is none that is handled
    have hpass : (e.directoryKind? == some .invalidName) = false := beq_eq_false_iff_ne.mpr (hnames e rfl)
    simp only [hpass] at htry
    exact Session.perform_bind_of_error htry _
  · -- a wrong password ends the login, since attributes were read
    have hread : h.settings.attributeIds.isEmpty = false := List.isEmpty_eq_false_iff.mpr hreads
    rw [Session.perform_bind_of_ok htry]
    simp only [hread]
    rfl
  · rw [Session.perform_bind_of_ok htry]
    rfl

/-- The login goes on with the patterns behind if a name cannot be read. -/
theorem authenticate_of_invalidName {e : Failure} (hresult : result = .error e)
    (hname : e.directoryKind? = some .invalidName) :
    (authenticate h m username password).perform ch =
      (authenticateByPatterns h m username password (i + 1) (patterns.drop (i + 1))).perform
        { ch₃ with world := ch₃.world.write (invalidNameWarning username i e) } := by
  have htry := tryPattern_of_user (m := m) hread
  subst hresult
  have hhandled : (e.directoryKind? == some .invalidName) = true := beq_iff_eq.mpr hname
  rw [hrun] at htry
  simp only [hhandled, if_true] at htry
  rw [hpassed.authenticate_eq hpatterns (Nat.le_of_lt hi), List.drop_eq_getElem_cons hi, authenticateByPatterns,
    Session.perform_bind_of_ok htry]

end Resolved

end Exchange

/-! ## §5 The theorem -/

open Exchange

/-- **The first entry that was read decides**, as long as names can be read. Let a login have passed the patterns
before number `i`, where attributes are read, and let the entry of that pattern be read as that of `user`. Unless
authenticating this user fails with a name that cannot be read, it is the whole of what is left to do: the login ends
as it does, in the same state, with a grant for no one else; and so it would with any other patterns behind number `i`.
If it does fail with such a name, the failure is only reported, and the login goes on with the patterns behind. -/
theorem first_read_entry_decides {h : Handle} {m : Matcher} {username : String} {password : Password}
    {patterns : List Template} {i : Nat} {ch ch₁ ch₂ ch₃ : Channel} {user : User}
    {result : Except Failure (Option Grant)}
    (hpatterns : h.templates.userPatterns = some patterns) (hreads : h.settings.attributeIds ≠ [])
    (hi : i < patterns.length) (hpassed : Passed h m username password i ch ch₁)
    (hread : (getUser h (some username) (some password) i).perform ch₁ = (.ok (some user), ch₂))
    (hrun : (authenticateUser h m username password user).perform ch₂ = (result, ch₃)) :
    ((∀ e, result = .error e → e.directoryKind? ≠ some .invalidName) →
      (authenticate h m username password).perform ch = (result, ch₃) ∧
      (∀ g, result = .ok (some g) → g.user = user) ∧
      ∀ later, (authenticate (h.withPatterns (patterns.take (i + 1) ++ later)) m username password).perform ch =
        (result, ch₃)) ∧
    ∀ e, result = .error e → e.directoryKind? = some .invalidName →
      (authenticate h m username password).perform ch =
        (authenticateByPatterns h m username password (i + 1) (patterns.drop (i + 1))).perform
          { ch₃ with world := ch₃.world.write (invalidNameWarning username i e) } := by
  constructor
  · intro hnames
    refine ⟨authenticate_of_read hpatterns hi hpassed hread hrun hreads hnames, ?_, ?_⟩
    · rintro g rfl
      exact user_of_authenticateUser hrun
    · intro later
      -- the patterns up to this one are the same, and so is everything that they have led to
      have hsame : ∀ j < i + 1, (patterns.take (i + 1) ++ later)[j]? = patterns[j]? := by
        intro j hj
        have htake : j < (patterns.take (i + 1)).length := by
          rw [List.length_take]
          omega
        rw [List.getElem?_append_left htake, List.getElem?_take_of_lt hj]
      have hi' : i < (patterns.take (i + 1) ++ later).length := by
        rw [List.length_append, List.length_take]
        omega
      have hpassed' := hpassed.withPatterns hpatterns fun j hj => hsame j (Nat.lt_succ_of_lt hj)
      have hread' := hread
      rw [← getUser_withPatterns hpatterns (hsame i (Nat.lt_succ_self i))] at hread'
      exact authenticate_of_read rfl hi' hpassed' hread' hrun hreads hnames
  · intro e hresult hname
    exact authenticate_of_invalidName hpatterns hi hpassed hread hrun hresult hname

/-! ### Runs -/

/-- Settings with two patterns, that read an attribute and search for roles. -/
def Settings.withTwoPatterns : Settings where
  connectionUrl := some "ldap://directory"
  userPattern := some "(uid=\x7b0\x7d,ou=day)(uid=\x7b0\x7d,ou=night)"
  userRoleName := some "title"
  roleBase := "ou=groups"
  roleSearch := some "(member=\x7b0\x7d)"
  roleName := some "cn"

def Handle.withTwoPatterns : Handle where
  snapshot := ⟨0, .withTwoPatterns⟩
  pooled := false
  templates :=
    { userSearch := none
      userPatterns := some
        [⟨"uid=\x7b0\x7d,ou=day", "uid=".toList.map .literal ++ .slot 0 :: ",ou=day".toList.map .literal⟩,
          ⟨"uid=\x7b0\x7d,ou=night", "uid=".toList.map .literal ++ .slot 0 :: ",ou=night".toList.map .literal⟩]
      roleBase := some ⟨"ou=groups", "ou=groups".toList.map .literal⟩
      roleSearch := some
        ⟨"(member=\x7b0\x7d)", "(member=".toList.map .literal ++ .slot 0 :: ")".toList.map .literal⟩ }

/-- A new connection to a directory with an entry for either pattern; the groups of the first one are those given. -/
def Channel.ofDayAndNight (groups : List String) : Channel where
  connection := { wire := 1, environment := .ofSettings .withTwoPatterns 0 }
  world :=
    { wires := [{ isOpen := true }]
      directory :=
        { entries := [("uid=ada,ou=day", [("title", .list [.text "keeper"])]),
            ("uid=ada,ou=night", [("title", .list [.text "watch"])])]
          passwords := [("uid=ada,ou=day", "pearl"), ("uid=ada,ou=night", "pearl")]
          answers := [("(member=uid=ada,ou=day)",
            groups.map fun dn => .item (.entry dn (some [("cn", .list [.text "birds"])])))] } }

/-- The user of the first entry. -/
def User.dayKeeper : User where
  username := some "ada"
  dn := some "uid=ada,ou=day"
  password := some "pearl"
  roles := ["keeper"]

/-- The first entry decides: whoever logs in has its roles. -/
theorem first_of_two_decides :
    ∃ g ch, (authenticate .withTwoPatterns .plain "ada" "pearl").perform (.ofDayAndNight ["cn=birds,ou=groups"]) =
        (.ok (some g), ch) ∧
      g.user = .dayKeeper ∧ g.principal.roles = ["keeper", "birds"] := by
  -- the entry of the first pattern is read
  have hread : (getUser .withTwoPatterns (some "ada") (some "pearl") (0 : Nat)).perform
      (.ofDayAndNight ["cn=birds,ou=groups"]) =
        (.ok (some .dayKeeper), ((getUser .withTwoPatterns (some "ada") (some "pearl") (0 : Nat)).perform
          (.ofDayAndNight ["cn=birds,ou=groups"])).2) := Prod.ext (by decide +kernel) rfl
  generalize hstate : ((getUser .withTwoPatterns (some "ada") (some "pearl") (0 : Nat)).perform
    (.ofDayAndNight ["cn=birds,ou=groups"])).2 = ch₂ at hread
  -- its user has the roles of the group
  have hroles : ((authenticateUser .withTwoPatterns .plain "ada" "pearl" .dayKeeper).perform ch₂).1.map
      (·.map (·.principal.roles)) = .ok (some ["keeper", "birds"]) := by
    rw [← hstate]
    decide +kernel
  rcases hrun : (authenticateUser .withTwoPatterns .plain "ada" "pearl" .dayKeeper).perform ch₂
    with ⟨_ | _ | g, ch₃⟩
  all_goals rw [hrun] at hroles
  · cases hroles
  · cases hroles
  have hroles : g.principal.roles = ["keeper", "birds"] := Option.some.inj (Except.ok.inj hroles)
  -- so this grant is the result of the login
  obtain ⟨hdecides, -⟩ := first_read_entry_decides (rfl : Handle.withTwoPatterns.templates.userPatterns = some _)
    (by decide) (by decide) .start hread hrun
  obtain ⟨hlogin, huser, -⟩ := hdecides nofun
  exact ⟨g, ch₃, hlogin, huser g rfl, hroles⟩

/-- The name of a group that cannot be read lets the second entry in, although the first one was read before it. -/
theorem second_of_two_let_in :
    Templates.compile .withTwoPatterns = .ok Handle.withTwoPatterns.templates ∧
      ((getUser .withTwoPatterns (some "ada") (some "pearl") 0).perform (.ofDayAndNight ["nonsense"])).1 =
        .ok (some .dayKeeper) ∧
      ((authenticate .withTwoPatterns .plain "ada" "pearl").perform (.ofDayAndNight ["nonsense"])).1.map
        (·.map fun g => (g.user.dn, g.principal.roles)) = .ok (some (some "uid=ada,ou=night", ["watch"])) := by
  refine ⟨?_, ?_, ?_⟩
  · decide +kernel
  · decide +kernel
  · decide +kernel

end DirectoryLogin

import DirectoryLogin.Proofs.Connection.Reads
import DirectoryLogin.Proofs.Manager.Regular
import DirectoryLogin.Proofs.Realm.DecidingPatterns
import DirectoryLogin.Proofs.Users.StoredPasswords
/-!
# Logins and Lookups over one Connection

Users are found by two loops over the same patterns. A login goes on behind a pattern whose name cannot be read, and
behind an entry whose groups have a name that cannot be read; a lookup ends there. So a lookup finds the user that has
logged in only if the patterns in front of it hold nothing at all.

- `Connection.Established.result_bind`: over a connection of the service, results are put together like programs.
- `Exchange.getUser_of_openTo`: where the service may read everything, the presented password plays no part in finding
  a user.
- `Exchange.PatternRun`: the ways in which a login tries one pattern, by what a lookup makes of it.
- `Exchange.lookupsAgree_iff`: after a login by the pattern of some number, lookups agree with it exactly if no pattern
  in front of it holds anything.
-/

namespace DirectoryLogin

/-! ## §1 Results over a connection of the service -/

namespace Connection.Established

variable {α β : Type} {kind : ConnectionKind} {policy : Option TlsArguments} {s : Settings} {P : α → Prop}
  {Q : β → Prop} {x : Exchange α} {y : Exchange β} {ch : Channel}

/-- What has been run before makes no difference to what an orderly program comes to. -/
theorem result_after (h : Established kind policy s ch) (hx : Exchange.Orderly s P x) (hy : Exchange.Orderly s Q y) :
    (y.perform (x.perform ch).2).1 = (y.perform ch).1 := by
  have hserves := hx.serves ch
  exact (hy.similar ((h.serves hserves).similar h hserves.world.directory)).1

/-- **Results are put together like programs.** -/
theorem result_bind (h : Established kind policy s ch) (hx : Exchange.Orderly s P x) {f : α → Exchange β}
    (hf : ∀ a, P a → Exchange.Orderly s Q (f a)) :
    ((x >>= f).perform ch).1 = (x.perform ch).1 >>= fun a => ((f a).perform ch).1 := by
  rcases hrun : x.perform ch with ⟨e | a, ch'⟩
  · rw [Session.perform_bind_of_error hrun]
    rfl
  · have hafter := h.result_after hx (hf a (hx.value hrun))
    rw [hrun] at hafter
    rw [Session.perform_bind_of_ok hrun]
    exact hafter

end Connection.Established

namespace Exchange

variable {h : Handle} {policy : Option TlsArguments} {name passwordName username : String} {password : Password}
  {attempt : Int} {service : Value} {patterns : List Template} {ch : Channel}

/-! ## §2 Finding a user -/

/-- An entry that the service may read is not withheld. -/
theorem kind_of_userByDn (hquiet : ch.world.faults = []) (hhonest : ch.Honest) (hkind : ch.connection.kind = .standard)
    (hbinds : ch.world.directory.bindOutcome ch.connection.environment = .ok service)
    (hopen : ch.world.directory.OpenTo service) {s : Settings} {ids : List String} {dn : String} {e : Failure}
    (h : ((userByDn s username ids dn).perform ch).1 = .error e) : e.directoryKind? ≠ some .authentication := by
  have hread := read_outcome hquiet hhonest hkind dn (some ids)
  rw [userByDn] at h
  split at h
  · cases h
  · rcases hrun : (read dn (some ids)).perform ch with ⟨e' | attributes, ch'⟩
    all_goals rw [hrun] at hread
    · -- the read has failed, and a missing entry is no failure
      have hkind := hopen.kind_of_readOutcome hbinds hread.symm
      rw [Session.perform_bind, Session.perform_rescue_if, hrun] at h
      by_cases hmissing : (e'.directoryKind? == some .nameNotFound) = true
      · simp only [hmissing, if_true] at h
        cases h
      · simp only [hmissing] at h
        cases h
        exact hkind
    · rw [Session.perform_bind, Session.perform_rescue_if, hrun] at h
      cases h

section Stored

variable (hestablished : Connection.Established .standard policy h.settings ch)
  (hstored : h.settings.userPassword = some passwordName)

include hestablished hstored in
/-- **Finding a user by a pattern** does not depend on the presented password, where the service may read everything. -/
theorem getUser_of_openTo (hpatterns : h.templates.userPatterns = some patterns)
    (hin : ch.world.directory.LetsIn policy h.settings name attempt service)
    (hopen : ch.world.directory.OpenTo service) (username : String) (password : Password) (i : Nat) :
    (getUser h (some username) (some password) i).perform ch = (getUser h (some username) none i).perform ch := by
  have hbinds : ch.world.directory.bindOutcome ch.connection.environment = .ok service :=
    (Directory.bindOutcome_congr (hin.established hestablished).2 _).trans hin.binds
  have hsame (ids : List String) : (userByPattern h (some username) (some password) ids i).perform ch =
      (userByPattern h (some username) none ids i).perform ch := by
    simp only [userByPattern, hpatterns]
    rcases patternAt patterns i with e | _ | pattern
    · rfl
    · rfl
    change ((userByDn h.settings username ids _).rescue _).perform ch =
      ((userByDn h.settings username ids _).rescue _).perform ch
    rw [Session.perform_rescue_if, Session.perform_rescue_if]
    rcases hrun : (userByDn h.settings username ids (pattern.fill [some (Name.escapeValue username)])).perform ch with
      ⟨e | user, ch'⟩
    · -- the read does not fail in the way that would be mended by the password
      have hkind := kind_of_userByDn hestablished.quiet hestablished.honest hestablished.kind hbinds hopen
        (congrArg Prod.fst hrun)
      have hother : (e.directoryKind? == some .authentication) = false := beq_eq_false_iff_ne.mpr hkind
      simp only [hother, Bool.false_and, Bool.false_eq_true, if_false]
    · rfl
  rw [getUser_eq_byPattern hpatterns, getUser_eq_byPattern hpatterns, keepPassword_stored hstored,
    keepPassword_stored hstored, Session.perform_bind, Session.perform_bind, hsame]

/-! ## §3 One pattern -/

/-- What looking up the pattern of a number comes to. -/
def lookupAt (h : Handle) (username : String) (ch : Channel) (i : Nat) : Except Failure (Option User) :=
  ((getUser h (some username) none i).perform ch).1

/-- The ways in which a login tries a pattern, by what a lookup makes of the same pattern. -/
inductive PatternRun (h : Handle) (username : String) (password : Password) (i : Nat) (ch : Channel) :
    Except Failure PatternOutcome → Prop
  /-- There is no entry. -/
  | missing (hlookup : lookupAt h username ch i = .ok none) :
    PatternRun h username password i ch (.ok .unresolved)
  /-- The name of the pattern cannot be read. -/
  | unreadable (e : Failure) (hlookup : lookupAt h username ch i = .error e) :
    PatternRun h username password i ch (.ok .unresolved)
  /-- The password is right, but a name cannot be read on the way to the roles. -/
  | rolesUnreadable (user : User) (e : Failure)
    (hlookup : lookupAt h username ch i = .ok (some user))
    (hroles : ((rolesOf h user).perform ch).1 = .error e) : PatternRun h username password i ch (.ok .unresolved)
  /-- The password is wrong. -/
  | rejected : PatternRun h username password i ch (.ok .rejected)
  /-- The user logs in. -/
  | accepted (user : User) (roles : Option (List String))
    (hlookup : lookupAt h username ch i = .ok (some user))
    (hpassword : user.password = some password) (hroles : ((rolesOf h user).perform ch).1 = .ok roles) :
    PatternRun h username password i ch (.ok (.accepted ⟨user, ⟨username, roles.getD [], .null⟩⟩))
  /-- Something else has gone wrong. -/
  | failed (e : Failure) : PatternRun h username password i ch (.error e)

/-- A user with the right password has the roles that are found. -/
theorem result_authenticateUser {user : User} (hstored : h.settings.userPassword = some passwordName)
    (hright : user.Stores password) :
    ((authenticateUser h .plain username password user).perform ch).1 =
      ((rolesOf h user).perform ch).1.map fun roles => some ⟨user, ⟨username, roles.getD [], .null⟩⟩ := by
  rw [authenticateUser_of_stores hstored hright]
  rcases hroles : (rolesOf h user).perform ch with ⟨e | roles, ch'⟩
  · have hprincipal : (principalOf h username user).perform ch = (.error e, ch') :=
      Session.perform_bind_of_error hroles _
    rw [Session.perform_bind_of_error hprincipal]
    rfl
  · exact result_principalOf (congrArg Prod.fst hroles)

include hestablished hstored in
/-- **Every try of a pattern** ends in one of these ways. -/
theorem tryPattern_run (hpatterns : h.templates.userPatterns = some patterns)
    (hin : ch.world.directory.LetsIn policy h.settings name attempt service)
    (hopen : ch.world.directory.OpenTo service) (username : String) (password : Password) (i : Nat) :
    PatternRun h username password i ch ((tryPattern h .plain username password i).perform ch).1 := by
  have hfound := getUser_of_openTo hestablished hstored hpatterns hin hopen username password i
  rcases hlookup : (getUser h (some username) none i).perform ch with ⟨e | _ | user, ch₁⟩
  all_goals rw [hlookup] at hfound
  · rw [tryPattern, Session.perform_rescue_if, Session.perform_bind_of_error hfound]
    by_cases hname : (e.directoryKind? == some .invalidName) = true
    · simp only [hname, if_true]
      exact .unreadable e (congrArg Prod.fst hlookup)
    · simp only [hname]
      exact .failed e
  · rw [tryPattern, Session.perform_rescue_if, Session.perform_bind_of_ok hfound]
    exact .missing (congrArg Prod.fst hlookup)
  · -- the user is authenticated after the read, which changes nothing that decides
    have hafter : ((authenticateUser h .plain username password user).perform
        ((getUser h (some username) none i).perform ch).2).1 =
          ((authenticateUser h .plain username password user).perform ch).1 :=
      hestablished.result_after .getUser .authenticateUser
    rw [hlookup] at hafter
    rw [tryPattern_of_user hfound]
    rcases hrun : (authenticateUser h .plain username password user).perform ch₁ with ⟨result, ch₂⟩
    rw [hrun] at hafter
    -- with the right password it comes down to the roles
    by_cases hright : user.Stores password
    · have hresult := hafter.trans (result_authenticateUser hstored hright)
      rcases hroles : ((rolesOf h user).perform ch).1 with e | roles
      · rw [hroles] at hresult
        cases hresult
        by_cases hname : (e.directoryKind? == some .invalidName) = true
        · simp only [hname, if_true]
          exact .rolesUnreadable user e (congrArg Prod.fst hlookup) hroles
        · simp only [hname]
          exact .failed e
      · rw [hroles] at hresult
        cases hresult
        exact .accepted user roles (congrArg Prod.fst hlookup) hright.1 hroles
    · -- with any other one the pattern is rejected, or the comparison fails
      have hrefused := refused_of_not_stores username hstored hright ch
      rw [← hafter] at hrefused
      cases hrefused with
      | wrong => exact .rejected
      | flawed flaw => exact .failed _

end Stored

/-! ## §4 The two loops -/

section Loops

variable {kind : ConnectionKind} {m : Matcher} {g : Grant} {i k : Nat} {rest : List Template}
  (hestablished : Connection.Established kind policy h.settings ch)
include hestablished

/-- **A login by patterns** has passed some of them, up to the one that it is granted by. -/
theorem of_authenticateByPatterns (hreads : h.settings.attributeIds ≠ [])
    (hgranted : ((authenticateByPatterns h m username password i rest).perform ch).1 = .ok (some g)) :
    ∃ k < rest.length, (∀ j < k, ((tryPattern h m username password (i + j)).perform ch).1 = .ok .unresolved) ∧
      ((tryPattern h m username password (i + k)).perform ch).1 = .ok (.accepted g) := by
  induction rest generalizing i with
  | nil => cases hgranted
  | cons t rest ih =>
    have hread : h.settings.attributeIds.isEmpty = false := List.isEmpty_eq_false_iff.mpr hreads
    rw [authenticateByPatterns, hestablished.result_bind (Q := fun _ => True) Orderly.tryPattern] at hgranted
    · rcases htry : ((tryPattern h m username password i).perform ch).1 with e | outcome
      all_goals rw [htry] at hgranted
      · cases hgranted
      cases outcome with
      | accepted g' =>
        cases hgranted
        exact ⟨0, Nat.zero_lt_succ _, fun j hj => absurd hj (Nat.not_lt_zero j), htry⟩
      | unresolved =>
        obtain ⟨k, hk, hpassed, haccepted⟩ := ih hgranted
        refine ⟨k + 1, Nat.succ_lt_succ hk, fun j hj => ?_, by rwa [← Nat.add_assoc, Nat.add_right_comm]⟩
        cases j with
        | zero => exact htry
        | succ j =>
          rw [← Nat.add_assoc, Nat.add_right_comm]
          exact hpassed j (Nat.lt_of_succ_lt_succ hj)
      | rejected =>
        -- attributes were read, so that a wrong password ends the login
        change ((if h.settings.attributeIds.isEmpty then _ else pure none : Exchange _).perform ch).1 = _ at hgranted
        rw [hread] at hgranted
        cases hgranted
    · intro outcome _
      cases outcome with
      | accepted g => exact .pure trivial
      | unresolved => exact .authenticateByPatterns rest (i + 1)
      | rejected => exact .ite (.authenticateByPatterns rest (i + 1)) (.pure trivial)

/-- **A lookup by patterns** ends with the first one that does not turn out to be missing, whatever it is. -/
theorem result_firstByPattern (hk : k < rest.length) (hmissing : ∀ j < k, lookupAt h username ch (i + j) = .ok none)
    (hfound : lookupAt h username ch (i + k) ≠ .ok none) :
    ((firstByPattern h (some username) i rest).perform ch).1 = lookupAt h username ch (i + k) := by
  induction rest generalizing i k with
  | nil => cases hk
  | cons t rest ih =>
    rw [firstByPattern, hestablished.result_bind (Q := fun _ => True) Orderly.getUser]
    · change lookupAt h username ch i >>= _ = _
      cases k with
      | zero =>
        rw [Nat.add_zero] at hfound ⊢
        generalize lookupAt h username ch i = found at hfound ⊢
        rcases found with e | _ | user
        · rfl
        · exact (hfound rfl).elim
        · rfl
      | succ k =>
        -- the first pattern has no user, so the loop goes on with the rest
        have hfirst : lookupAt h username ch i = .ok none := hmissing 0 (Nat.zero_lt_succ k)
        rw [← Nat.add_assoc, Nat.add_right_comm] at hfound ⊢
        rw [hfirst]
        refine ih (Nat.lt_of_succ_lt_succ hk) (fun j hj => ?_) hfound
        have hnext := hmissing (j + 1) (Nat.succ_lt_succ hj)
        rwa [← Nat.add_assoc, Nat.add_right_comm] at hnext
    · intro found _
      cases found with
      | none => exact .firstByPattern rest (i + 1)
      | some user => exact .pure trivial

end Loops

/-! ## §5 Lookups after a login -/

/-- Looking the user up gives back the password that was presented, and these roles. -/
structure LookupsAgree (h : Handle) (username : String) (password : Password) (roles : List String) (ch : Channel) :
    Prop where
  password : ((storedPassword h (some username)).perform ch).1 = .ok (some password)
  roles : ∃ q, ((knownPrincipal h username .null).perform ch).1 = .ok (some q) ∧ q.roles = roles

/-- The stored password is that of the user that is found. -/
theorem result_storedPassword (h : Handle) (username : String) (ch : Channel) :
    ((storedPassword h (some username)).perform ch).1 =
      ((findUser h (some username)).perform ch).1.map (·.bind (·.password)) := by
  rw [storedPassword, Session.perform_bind]
  rcases (findUser h (some username)).perform ch with ⟨e | found, ch'⟩ <;> rfl

section Established

variable {kind : ConnectionKind} {user : User} {roles : Option (List String)} {g : Grant} {k : Nat}
  (hestablished : Connection.Established kind policy h.settings ch)
include hestablished

/-- The principal has the roles of the user that is found. -/
theorem result_knownPrincipal :
    ((knownPrincipal h username .null).perform ch).1 = do
      match ← ((findUser h (some username)).perform ch).1 with
      | none => return none
      | some user =>
        let roles ← ((rolesOf h user).perform ch).1
        return some ⟨user.username.getD username, roles.getD [], .null⟩ := by
  rw [knownPrincipal, delegating_eq]
  simp only [Value.isPresent, Bool.false_and, Bool.false_eq_true, if_false]
  -- finding the user gives the connection back, so the roles are read on it as before
  rw [hestablished.result_bind (Q := fun _ => True) Orderly.findUser]
  · refine bind_congr fun found => ?_
    cases found with
    | none => rfl
    | some user =>
      dsimp only
      rw [Session.perform_bind]
      rcases (rolesOf h user).perform ch with ⟨e | roles, ch'⟩
      · rfl
      · rfl
  · intro found _
    cases found with
    | none => exact .pure trivial
    | some user => exact .andThen .rolesOf fun _ => .pure trivial

/-- Lookups that find the user of the login agree with it. -/
theorem lookupsAgree_of_found (hfound : ((findUser h (some username)).perform ch).1 = .ok (some user))
    (hpassword : user.password = some password) (hroles : ((rolesOf h user).perform ch).1 = .ok roles) :
    LookupsAgree h username password (roles.getD []) ch := by
  constructor
  · rw [result_storedPassword, hfound, ← hpassword]
    rfl
  · rw [result_knownPrincipal hestablished, hfound]
    refine ⟨⟨user.username.getD username, roles.getD [], .null⟩, ?_, rfl⟩
    change (do let roles ← ((rolesOf h user).perform ch).1; return some _ : Except Failure _) = _
    rw [hroles]
    rfl

/-- **A login by the pattern of some number**: lookups agree with it exactly if looking up each of the patterns in front
finds nothing, and nothing goes wrong. -/
theorem lookupsAgree_iff (hsearch : h.templates.userSearch = none)
    (hpatterns : h.templates.userPatterns = some patterns) (hk : k < patterns.length)
    (hpassed : ∀ j < k, PatternRun h username password j ch (.ok .unresolved))
    (haccepted : PatternRun h username password k ch (.ok (.accepted g))) :
    LookupsAgree h username password g.principal.roles ch ↔ ∀ j < k, lookupAt h username ch j = .ok none := by
  have hfind : findUser h (some username) = firstByPattern h (some username) 0 patterns := by
    rw [findUser, hsearch, hpatterns]
  have hfirst {j : Nat} (hj : j ≤ k) (hmissing : ∀ i < j, lookupAt h username ch i = .ok none)
      (hfound : lookupAt h username ch j ≠ .ok none) :
      ((findUser h (some username)).perform ch).1 = lookupAt h username ch j := by
    have hresult := result_firstByPattern (i := 0) (k := j) hestablished (Nat.lt_of_le_of_lt hj hk)
      (by simpa only [Nat.zero_add] using hmissing) (by rwa [Nat.zero_add])
    rwa [Nat.zero_add, ← hfind] at hresult
  constructor
  · -- the first pattern in front that is not missing would be found instead
    intro hagree j
    induction j using Nat.strongRecOn with
    | ind j ih =>
      intro hj
      by_contra hfound
      have hmissing : ∀ i < j, lookupAt h username ch i = .ok none := fun i hi => ih i hi (hi.trans hj)
      have hresult := hfirst hj.le hmissing hfound
      cases hpassed j hj with
      | missing hlookup => exact hfound hlookup
      | unreadable e hlookup =>
        have hpassword := hagree.password
        rw [result_storedPassword, hresult, hlookup] at hpassword
        cases hpassword
      | rolesUnreadable user e hlookup hroles =>
        obtain ⟨q, hknown, -⟩ := hagree.roles
        rw [result_knownPrincipal hestablished, hresult, hlookup] at hknown
        change (do let roles ← ((rolesOf h user).perform ch).1; return some _ : Except Failure _) = _ at hknown
        rw [hroles] at hknown
        cases hknown
  · intro hmissing
    cases haccepted with
    | accepted user roles hlookup hpassword hroles =>
      have hresult := hfirst (Nat.le_refl k) hmissing (by simp [hlookup])
      exact lookupsAgree_of_found hestablished (hresult.trans hlookup) hpassword hroles

end Established

/-- **A login by a search**: lookups make the same search. -/
theorem lookupsAgree_of_search {g : Grant} (hestablished : Connection.Established .standard policy h.settings ch)
    (hstored : h.settings.userPassword = some passwordName) (hservice : h.settings.userSearchAsUser = false)
    (hpatterns : h.templates.userPatterns = none)
    (hgranted : ((authenticate h .plain username password).perform ch).1 = .ok (some g)) :
    LookupsAgree h username password g.principal.roles ch := by
  have hfind : findUser h (some username) = getUser h (some username) none (-1) := by
    rw [findUser, hpatterns]
    cases h.templates.userSearch <;> rfl
  rw [authenticate, hpatterns] at hgranted
  dsimp only at hgranted
  rw [getUser_stored hpatterns hstored hservice, ← getUser_stored hpatterns hstored hservice none, ← hfind,
    hestablished.result_bind (Q := fun _ => True) Orderly.findUser] at hgranted
  · rcases hfound : ((findUser h (some username)).perform ch).1 with e | _ | user
    all_goals rw [hfound] at hgranted
    · cases hgranted
    · cases hgranted
    · change ((authenticateUser h .plain username password user).perform ch).1 = _ at hgranted
      by_cases hright : user.Stores password
      · rw [result_authenticateUser hstored hright] at hgranted
        rcases hroles : ((rolesOf h user).perform ch).1 with e | roles
        all_goals rw [hroles] at hgranted
        · cases hgranted
        · cases hgranted
          exact lookupsAgree_of_found hestablished hfound hright.1 hroles
      · -- a user with another password would have been refused
        have hrefused := refused_of_not_stores username hstored hright ch
        rw [hgranted] at hrefused
        cases hrefused
  · intro found _
    cases found with
    | none => exact .pure trivial
    | some user => exact .authenticateUser

end Exchange

end DirectoryLogin

import DirectoryLogin.Proofs.Orderly
/-!
# The Programs of the Realm

Looking up users, checking passwords and finding roles are orderly programs, and so are the operations of the realm
that are made of them. They read of their handle nothing but its settings and its templates.
-/

namespace DirectoryLogin

variable {α β : Type}

/-! ## §1 Computations that need no connection -/

/-- A computation that fails only in ways that can be caught. -/
def FailsOrdinarily (x : Except Failure α) : Prop :=
  ∀ e, x = .error e → e.isOrdinary = true

namespace FailsOrdinarily

theorem ok (a : α) : FailsOrdinarily (.ok a) :=
  FailsAs.ok a

theorem error {e : Failure} (he : e.isOrdinary = true) : FailsOrdinarily (.error e : Except Failure α) :=
  FailsAs.error he

instance (x : Except Failure α) : Decidable (FailsOrdinarily x) :=
  match x with
  | .ok a => .isTrue (ok a)
  | .error e => decidable_of_iff (e.isOrdinary = true) ⟨error, fun h => h e rfl⟩

theorem bind {x : Except Failure α} {f : α → Except Failure β} (hx : FailsOrdinarily x)
    (hf : ∀ a, FailsOrdinarily (f a)) : FailsOrdinarily (x >>= f) :=
  FailsAs.bind hx hf

theorem map {x : Except Failure α} (hx : FailsOrdinarily x) (f : α → β) : FailsOrdinarily (x.map f) :=
  FailsAs.map hx f

theorem ite {c : Prop} [Decidable c] {x y : Except Failure α} (hx : FailsOrdinarily x) (hy : FailsOrdinarily y) :
    FailsOrdinarily (if c then x else y) :=
  FailsAs.ite hx hy

end FailsOrdinarily

/-- What programs raise can be caught. -/
theorem Raises.ordinarily {x : Except Failure α} (hx : Raises x) : FailsOrdinarily x :=
  hx.mono fun _ => Failure.ordinary_of_isRaised

namespace Exchange

namespace Orderly

variable {s : Settings}

/-! ## §2 Looking up users -/

theorem checkEnding {ending : Option Failure} (h : ∀ e, ending = some e → e.isRaised = true) :
    Orderly s (fun _ => True) (s.checkEnding ending : Exchange Unit) := by
  unfold Settings.checkEnding
  split
  · exact ite (pure trivial) (throw (h _ rfl))
  · exact pure trivial

theorem userByDn {username dn : String} {ids : List String} :
    Orderly s (fun _ => True) (userByDn s username ids dn) := by
  refine ite (pure trivial) (andThen (rescue_if read (fun e _ => pure trivial) fun e hkind => ?_) fun _ => pure trivial)
  exact Failure.isTransient_of_kind hkind nofun

theorem onlyResult {username : String} {results : Results} (h : EndsOrdinarily results) :
    Orderly s (fun _ => True) (onlyResult s username results) := by
  unfold Exchange.onlyResult
  split
  · exact andThen (checkEnding h) fun _ => pure trivial
  · exact andThen (checkEnding h) fun _ => pure trivial
  · exact andThen say fun _ => pure trivial

variable {h : Handle}

theorem userByPattern {username : Option String} {password : Option Password} {ids : List String} {index : Int} :
    Orderly h.settings (fun _ => True) (userByPattern h username password ids index) := by
  unfold Exchange.userByPattern
  split
  · refine andThen (ofExcept (patternAt_raises _ _)) fun pattern => ?_
    split
    · exact pure trivial
    · refine rescue_if userByDn (fun e _ => boundAs userByDn) fun e hkind => ?_
      exact Failure.isTransient_of_kind ((Bool.and_eq_true _ _).mp hkind).1 nofun
  · exact pure trivial

theorem userBySearch {username : Option String} {ids : List String} :
    Orderly h.settings (fun _ => True) (userBySearch h username ids) := by
  unfold Exchange.userBySearch
  split
  · rename_i name template _
    -- the name of a result is read below the URL's namespace, and may be refused there
    refine bind search fun results hends => andThen (onlyResult hends) fun result => ?_
    split
    · exact pure trivial
    · rename_i result
      refine relative (f := fun namespaceName => do
        let dn ← Session.ofExcept (Name.ofResult namespaceName h.settings.userBase result h.settings.forceDnHexEscape)
        return result.attributes.map (User.ofEntry h.settings (some name) dn)) fun _ => ?_
      exact andThen (ofExcept (Name.ofResult_raises _ _ _ _)) fun _ => pure trivial
  · exact pure trivial

theorem getUser {username : Option String} {password : Option Password} {index : Int} :
    Orderly h.settings (fun _ => True) (getUser h username password index) := by
  unfold Exchange.getUser
  refine ite ?_ (ite ?_ ?_)
  · exact andThen userByPattern fun _ => pure trivial
  · exact andThen (boundAs userBySearch) fun _ => pure trivial
  · exact andThen userBySearch fun _ => pure trivial

theorem firstByPattern {username : Option String} (patterns : List Template) (index : Nat) :
    Orderly h.settings (fun _ => True) (firstByPattern h username index patterns) := by
  induction patterns generalizing index with
  | nil => exact pure trivial
  | cons _ rest ih =>
    unfold Exchange.firstByPattern
    refine andThen getUser fun user => ?_
    split
    · exact pure trivial
    · exact ih (index + 1)

theorem findUser {username : Option String} : Orderly h.settings (fun _ => True) (findUser h username) := by
  unfold Exchange.findUser
  split
  · exact firstByPattern _ 0
  · exact getUser

/-! ## §3 Finding roles -/

theorem searchAs {user : User} {base filter : String} {controls : SearchControls} :
    Orderly s EndsOrdinarily (searchAs s user base filter controls) :=
  ite (boundAs search) search

theorem searchGroups {user : User} {base filter : String} :
    Orderly s (fun _ => True) (searchGroups s user base filter) := by
  refine bind searchAs fun results hends => ?_
  refine relative (f := fun name => do
    let groups ← Session.ofExcept (collectGroups s name base [] results.items)
    s.checkEnding results.ending
    return groups) fun name => ?_
  refine andThen (ofExcept (collectGroups_raises _ _ _ _ _)) fun groups => ?_
  exact andThen (checkEnding hends) fun _ => pure trivial

theorem closeOver {user : User} {base : String} {template : Template} (bound : Nat) (done pending : List Group) :
    Orderly s (fun _ => True) (closeOver s user base template bound done pending) := by
  induction bound generalizing done pending with
  | zero =>
    cases pending with
    | nil => exact pure trivial
    | cons g rest => exact pure trivial
  | succ bound ih =>
    cases pending with
    | nil => exact pure trivial
    | cons g rest => exact andThen searchGroups fun found => ih _ _

theorem nestedGroups {user : User} {base : String} {template : Template} {groups : List Group} :
    Orderly s (fun _ => True) (nestedGroups s user base template groups) :=
  sized (f := fun extent => Exchange.closeOver s user base template (groups.length + extent) [] groups)
    fun _ => closeOver _ _ _

theorem rolesOf {user : User} : Orderly h.settings (fun _ => True) (rolesOf h user) := by
  unfold Exchange.rolesOf
  split
  · dsimp only
    split
    · refine andThen (ofExcept (roleBase_raises _ _)) fun base => andThen searchGroups fun groups => ?_
      refine ite ?_ ?_
      · exact andThen nestedGroups fun _ => pure trivial
      · exact andThen (pure trivial) fun _ => pure trivial
    · exact pure trivial
  · exact pure trivial

/-! ## §4 The operations of the realm -/

theorem verify {m : Matcher} {user : User} {password : Option Password} :
    Orderly s (fun _ => True) (verify s m user password) := by
  refine ite verifyByBind ?_
  unfold Exchange.verifyByAttribute
  exact ite (pure trivial) (ofExcept (m.compare_raises _ _))

variable {m : Matcher} {username : String} {password : Password}

theorem authenticateUser {user : User} :
    Orderly h.settings (fun _ => True) (authenticateUser h m username password user) := by
  refine andThen verify fun verified => ite ?_ (pure trivial)
  exact andThen (andThen rolesOf fun _ => pure trivial) fun _ => pure trivial

theorem tryPattern {index : Nat} : Orderly h.settings (fun _ => True) (tryPattern h m username password index) := by
  refine rescue_if (andThen getUser fun user => ?_) (fun e _ => andThen say fun _ => pure trivial) fun e hkind => ?_
  · split
    · exact pure trivial
    · refine andThen authenticateUser fun granted => ?_
      split
      · exact pure trivial
      · exact pure trivial
  · exact Failure.isTransient_of_kind hkind nofun

theorem authenticateByPatterns (patterns : List Template) (index : Nat) :
    Orderly h.settings (fun _ => True) (authenticateByPatterns h m username password index patterns) := by
  induction patterns generalizing index with
  | nil => exact pure trivial
  | cons _ rest ih =>
    unfold Exchange.authenticateByPatterns
    refine andThen tryPattern fun outcome => ?_
    cases outcome with
    | accepted g => exact pure trivial
    | unresolved => exact ih (index + 1)
    | rejected => exact ite (ih (index + 1)) (pure trivial)

theorem authenticate : Orderly h.settings (fun _ => True) (authenticate h m username password) := by
  unfold Exchange.authenticate
  split
  · exact authenticateByPatterns _ 0
  · refine andThen getUser fun user => ?_
    split
    · exact pure trivial
    · exact authenticateUser

theorem knownPrincipal {credential : Value} :
    Orderly h.settings (fun _ => True) (knownPrincipal h username credential) := by
  refine delegating (andThen findUser fun user => ?_)
  split
  · exact pure trivial
  · exact andThen rolesOf fun _ => pure trivial

theorem storedPassword {username : Option String} :
    Orderly h.settings (fun _ => True) (storedPassword h username) :=
  andThen findUser fun _ => pure trivial

end Orderly

/-! ## §5 Handles for the same settings -/

section Handles

variable {h h' : Handle} (hs : h.settings = h'.settings) (ht : h.templates = h'.templates)
include hs ht

theorem userByPattern_congr (username : Option String) (password : Option Password) (ids : List String) (index : Int) :
    userByPattern h username password ids index = userByPattern h' username password ids index := by
  simp only [userByPattern, hs, ht]

theorem userBySearch_congr (username : Option String) (ids : List String) :
    userBySearch h username ids = userBySearch h' username ids := by
  simp only [userBySearch, hs, ht]

theorem getUser_congr (username : Option String) (password : Option Password) (index : Int) :
    getUser h username password index = getUser h' username password index := by
  simp only [getUser, hs, ht, userByPattern_congr hs ht, userBySearch_congr hs ht]

theorem firstByPattern_congr (username : Option String) (patterns : List Template) (index : Nat) :
    firstByPattern h username index patterns = firstByPattern h' username index patterns := by
  induction patterns generalizing index with
  | nil => rfl
  | cons pattern rest ih =>
    simp only [firstByPattern, getUser_congr hs ht, ih]

theorem findUser_congr (username : Option String) : findUser h username = findUser h' username := by
  simp only [findUser, ht, getUser_congr hs ht, firstByPattern_congr hs ht]

theorem rolesOf_congr (user : User) : rolesOf h user = rolesOf h' user := by
  simp only [rolesOf, roleBase, hs, ht]

theorem authenticateUser_congr (m : Matcher) (username : String) (password : Password) (user : User) :
    authenticateUser h m username password user = authenticateUser h' m username password user := by
  simp only [authenticateUser, principalOf, hs, rolesOf_congr hs ht]

theorem tryPattern_congr (m : Matcher) (username : String) (password : Password) (index : Nat) :
    tryPattern h m username password index = tryPattern h' m username password index := by
  simp only [tryPattern, getUser_congr hs ht, authenticateUser_congr hs ht]

theorem authenticateByPatterns_congr (m : Matcher) (username : String) (password : Password) (patterns : List Template)
    (index : Nat) :
    authenticateByPatterns h m username password index patterns =
      authenticateByPatterns h' m username password index patterns := by
  induction patterns generalizing index with
  | nil => rfl
  | cons pattern rest ih =>
    simp only [authenticateByPatterns, tryPattern_congr hs ht, hs, ih]

theorem authenticate_congr (m : Matcher) (username : String) (password : Password) :
    authenticate h m username password = authenticate h' m username password := by
  simp only [authenticate, ht, getUser_congr hs ht, authenticateUser_congr hs ht, authenticateByPatterns_congr hs ht]

theorem knownPrincipal_congr (username : String) (credential : Value) :
    knownPrincipal h username credential = knownPrincipal h' username credential := by
  simp only [knownPrincipal, hs, findUser_congr hs ht, rolesOf_congr hs ht]

theorem storedPassword_congr (username : Option String) : storedPassword h username = storedPassword h' username := by
  simp only [storedPassword, findUser_congr hs ht]

end Handles
/-- An orderly program that reads of its handle nothing but the settings and their templates. -/
structure Uniform (x : Handle → Exchange α) : Prop where
  orderly : ∀ h, Orderly h.settings (fun _ => True) (x h)
  congr : ∀ {h h'}, h.settings = h'.settings → h.templates = h'.templates → x h = x h'

theorem uniform_authenticate (m : Matcher) (username : String) (password : Password) :
    Uniform fun h => authenticate h m username password :=
  ⟨fun _ => Orderly.authenticate, fun hs ht => authenticate_congr hs ht m username password⟩

theorem uniform_knownPrincipal (username : String) (credential : Value) :
    Uniform fun h => knownPrincipal h username credential :=
  ⟨fun _ => Orderly.knownPrincipal, fun hs ht => knownPrincipal_congr hs ht username credential⟩

theorem uniform_storedPassword (username : Option String) : Uniform fun h => storedPassword h username :=
  ⟨fun _ => Orderly.storedPassword, fun hs ht => storedPassword_congr hs ht username⟩

end Exchange

end DirectoryLogin

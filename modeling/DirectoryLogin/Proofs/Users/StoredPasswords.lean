import DirectoryLogin.Proofs.Connection.Outcome
import DirectoryLogin.Proofs.Passwords
import DirectoryLogin.Proofs.Users.SingleEntry
import DirectoryLogin.Realm
/-!
# Stored Passwords

Where the settings name the attribute that stores passwords, a user is found by one search of the service, and the
password is compared with what the search has returned. Nothing is bound as the user.

- `Attributes.textsNamed`: the texts of an attribute, read off the raw attributes of an entry.
- `Exchange.userSearch_answered`: what the service is answered over a connection that was opened for the settings.
- `Exchange.verify_stored`: what comparing with a stored password says.
- `Exchange.authenticate_of_single`, `Exchange.authenticate_of_others`: what becomes of the entries.
-/

namespace DirectoryLogin

/-! ## §1 Attributes of an entry -/

namespace Attributes

/-- The texts of an attribute: those of the first one with this name, ignoring case. -/
def textsNamed (raw : Option Attributes) (name : String) : List String :=
  ((List.find? (fun a => Text.sameIgnoringCase a.1 name) (raw.getD [])).map fun a => decodedTexts a.2).getD []

theorem textsOf_texts (texts : List String) : textsOf (.list (texts.map .text)) = texts := by
  have hpresent : ∀ v ∈ texts.map Value.text, v.isPresent = true := by
    intro v hv
    obtain ⟨text, -, rfl⟩ := List.mem_map.mp hv
    rfl
  rw [textsOf, List.filter_eq_self.mpr hpresent, List.map_map]
  exact List.map_id texts

/-- Decoding keeps the names, and so the choice among attributes of one name. -/
theorem find?_decode (raw : Option Attributes) (name : String) :
    find? (decode raw) name =
      (List.find? (fun a => Text.sameIgnoringCase a.1 name) (raw.getD [])).map fun a =>
        .list ((decodedTexts a.2).map .text) := by
  simp only [find?, decode, List.find?_map, Function.comp_def, Option.map_map]

theorem values_decode (name : Option String) (raw : Option Attributes) :
    values name (some (decode raw)) = name.toList.flatMap (textsNamed raw) := by
  rcases name with _ | name
  · rfl
  · simp only [values, find?_decode, Option.toList_some, List.flatMap_singleton, textsNamed]
    rcases List.find? _ (raw.getD []) with _ | a
    · rfl
    · exact textsOf_texts _

theorem first?_decode (name : String) (raw : Option Attributes) :
    first? (some name) (some (decode raw)) = (textsNamed raw name).head? := by
  rw [first?, values_decode, Option.toList_some, List.flatMap_singleton]

end Attributes

/-- The user has this password, and it can be compared. -/
def User.Stores (user : User) (password : Password) : Prop :=
  user.password = some password ∧ password.flaw? = none

namespace Exchange

variable {h : Handle} {username passwordName : String} {password : Password} {user : User} {ch ch' : Channel}

/-- The user that is made of an entry: its password and its roles are those that the entry lists. -/
theorem of_userOfEntry {s : Settings} {c : Connection} {entry : String × Option Attributes}
    (hstored : s.userPassword = some passwordName) (huser : userOfEntry s username c entry = .ok user) :
    user.username = some username ∧ (∃ dn, user.dn = some dn) ∧
      user.password = (Attributes.textsNamed entry.2 passwordName).head?.map .text ∧
      user.roles = s.userRoleName.toList.flatMap (Attributes.textsNamed entry.2) := by
  obtain ⟨dn, rfl⟩ : ∃ dn, User.ofEntry s (some username) dn (Attributes.decode entry.2) = user := by
    rw [userOfEntry] at huser
    generalize Name.ofResult c.namespaceName s.userBase _ s.forceDnHexEscape = name at huser
    rcases name with e | dn
    · cases huser
    · exact ⟨dn, Except.ok.inj huser⟩
  refine ⟨rfl, ⟨dn, rfl⟩, ?_, Attributes.values_decode _ _⟩
  rw [User.ofEntry, hstored, Attributes.first?_decode]

/-! ## §2 Groups and roles -/

/-- The groups whose roles a user has. -/
def groupsOfUser (h : Handle) (user : User) (dn username : String) : Exchange (List Group) :=
  match h.templates.roleSearch, h.settings.roleName with
  | some template, some _ => do
    let base ← Session.ofExcept (roleBase h dn)
    let groups ← searchGroups h.settings user base (roleFilter template dn username user.roleId)
    if h.settings.roleNested then nestedGroups h.settings user base template groups else pure groups
  | _, _ => return []

/-- The roles of a user are its own, the one that every user has, and those of its groups. -/
theorem rolesOf_eq {dn : String} (hdn : user.dn = some dn) (hname : user.username = some username) :
    rolesOf h user = do
      let groups ← groupsOfUser h user dn username
      return some (user.roles ++ h.settings.commonRole.toList ++ groups.map (·.name)) := by
  rw [rolesOf, hdn, hname, groupsOfUser]
  dsimp only
  rcases h.templates.roleSearch with _ | template
  · simp only [pure_bind, List.map_nil, List.append_nil]
  · rcases h.settings.roleName with _ | roleName
    · simp only [pure_bind, List.map_nil, List.append_nil]
    · simp only [bind_assoc]
      refine bind_congr fun base => bind_congr fun groups => ?_
      split <;> simp only [pure_bind]

theorem Orderly.groupsOfUser {dn : String} : Orderly h.settings (fun _ => True) (groupsOfUser h user dn username) := by
  unfold Exchange.groupsOfUser
  split
  · exact andThen (ofExcept (roleBase_raises _ _)) fun base => andThen searchGroups fun groups =>
      ite nestedGroups (pure trivial)
  · exact pure trivial

/-! ## §3 Logging in over a connection -/

/-- How a password compares with the one of a user: it is that one, or another one, or there are no bytes to compare. -/
inductive Comparison (user : User) (password : Password) : Except Failure Bool → Prop
  | right (h : user.Stores password) : Comparison user password (.ok true)
  | wrong (h : ¬ user.Stores password) : Comparison user password (.ok false)
  | flawed (flaw : String) (h : ¬ user.Stores password) : Comparison user password (.error (Password.unencodable flaw))

/-- How a user is refused: with no grant, or because there are no bytes to compare. -/
inductive Refused {α : Type} : Except Failure (Option α) → Prop
  | wrong : Refused (.ok none)
  | flawed (flaw : String) : Refused (.error (Password.unencodable flaw))

/-- **Comparing with a stored password** sends nothing, and fails only for want of bytes. -/
theorem verify_stored {s : Settings} (hstored : s.userPassword = some passwordName) (user : User) (password : Password)
    (ch : Channel) :
    ∃ verdict, Comparison user password verdict ∧
      (verify s .plain user (some password)).perform ch = (verdict, ch) := by
  rw [verify, hstored, if_neg (by simp), verifyByAttribute]
  rcases huser : user.password with _ | stored
  · refine ⟨_, .wrong fun h => ?_, rfl⟩
    rw [User.Stores, huser] at h
    cases h.1
  have hstores : user.Stores password ↔ stored = password ∧ password.flaw? = none := by
    rw [User.Stores, huser, Option.some.injEq]
  refine ⟨_, ?_, congrArg (·, ch) (Matcher.compare_plain password stored)⟩
  -- by what is wrong with either of the two, if anything
  rcases hflaw : password.flaw? with _ | flaw
  · rcases hflaw' : stored.flaw? with _ | flaw
    · by_cases hsame : password = stored
      · rw [beq_iff_eq.mpr hsame]
        exact .right (hstores.mpr ⟨hsame.symm, hflaw⟩)
      · rw [beq_eq_false_iff_ne.mpr hsame]
        exact .wrong fun h => hsame (hstores.mp h).1.symm
    · refine .flawed flaw fun h => ?_
      rw [(hstores.mp h).1, hflaw] at hflaw'
      cases hflaw'
  · refine .flawed flaw fun h => ?_
    rw [(hstores.mp h).2] at hflaw
    cases hflaw

/-- A user with the right password has the roles that are found. -/
theorem authenticateUser_of_stores (hstored : h.settings.userPassword = some passwordName)
    (hright : user.Stores password) (ch : Channel) :
    (authenticateUser h .plain username password user).perform ch =
      (do return some ⟨user, ← principalOf h username user⟩ : Exchange (Option Grant)).perform ch := by
  obtain ⟨verdict, hcompared, hverify⟩ := verify_stored hstored user password ch
  cases hcompared with
  | right => rw [authenticateUser, Session.perform_bind_of_ok hverify, if_pos rfl]
  | wrong hother => exact absurd hright hother
  | flawed _ hother => exact absurd hright hother

/-- A user with another password is refused. -/
theorem refused_of_not_stores (username : String) (hstored : h.settings.userPassword = some passwordName)
    (hother : ¬ user.Stores password) (ch : Channel) :
    Refused ((authenticateUser h .plain username password user).perform ch).1 := by
  obtain ⟨verdict, hcompared, hverify⟩ := verify_stored hstored user password ch
  cases hcompared with
  | right hright => exact absurd hright hother
  | wrong =>
    rw [authenticateUser, Session.perform_bind_of_ok hverify]
    exact .wrong
  | flawed flaw =>
    rw [authenticateUser, Session.perform_bind_of_error hverify]
    exact .flawed flaw

/-- Where passwords are stored, the presented one is not kept. -/
theorem keepPassword_stored {s : Settings} (hstored : s.userPassword = some passwordName)
    (presented : Option Password) : keepPassword s presented = id := by
  funext u
  rw [keepPassword, hstored]
  rfl

section Search

variable {r : Response}

/-- The user that a complete answer yields. -/
theorem userBySearch_of_complete (hsearch : UserSearch h username h.settings.attributeIds ch r ch')
    (hcomplete : r.IsComplete) :
    (userBySearch h (some username) h.settings.attributeIds).perform ch =
      match r.entries with
      | [] => (.ok none, ch')
      | [entry] => ((userOfEntry h.settings username ch'.connection entry).map some, ch')
      | _ :: _ :: _ => (.ok none, { ch' with world := ch'.world.write (ambiguityNote username) }) := by
  rw [userBySearch_eq hsearch]
  dsimp only
  rw [Settings.endingOutcome_eq_ok_iff.mpr (.inl hcomplete), hcomplete.entriesRead]
  rfl

variable (hpatterns : h.templates.userPatterns = none) (hstored : h.settings.userPassword = some passwordName)
  (hservice : h.settings.userSearchAsUser = false)
include hpatterns hstored hservice

/-- Looking up the user is the search of the service. -/
theorem getUser_stored (presented : Option Password) :
    getUser h (some username) presented (-1) = userBySearch h (some username) h.settings.attributeIds := by
  rw [getUser, hpatterns, hservice, keepPassword_stored hstored]
  simp only [Option.isSome_none, Bool.false_and, Bool.false_eq_true, if_false, Option.map_id, id_eq, bind_pure]

variable (hsearch : UserSearch h username h.settings.attributeIds ch r ch') (hcomplete : r.IsComplete)
include hsearch hcomplete

/-- No entry is no user, and several entries are none either. -/
theorem authenticate_of_others (hentries : r.entries.length ≠ 1) :
    ((authenticate h .plain username password).perform ch).1 = .ok none := by
  have hnone : ((userBySearch h (some username) h.settings.attributeIds).perform ch).1 = .ok none := by
    rw [userBySearch_of_complete hsearch hcomplete]
    rcases hread : r.entries with _ | ⟨entry, _ | ⟨other, rest⟩⟩
    · rfl
    · rw [hread] at hentries
      exact (hentries rfl).elim
    · rfl
  rw [authenticate, hpatterns]
  dsimp only
  rw [getUser_stored hpatterns hstored hservice, Session.perform_bind_of_ok (Prod.ext hnone rfl)]
  rfl

/-- A single entry is the user, whose password is compared. -/
theorem authenticate_of_single {entry : String × Option Attributes} (hentry : r.entries = [entry])
    (huser : userOfEntry h.settings username ch'.connection entry = .ok user) :
    (authenticate h .plain username password).perform ch =
      (authenticateUser h .plain username password user).perform ch' := by
  have hfound : (userBySearch h (some username) h.settings.attributeIds).perform ch = (.ok (some user), ch') := by
    rw [userBySearch_of_complete hsearch hcomplete, hentry]
    dsimp only
    rw [huser]
    rfl
  rw [authenticate, hpatterns]
  dsimp only
  rw [getUser_stored hpatterns hstored hservice, Session.perform_bind_of_ok hfound]

end Search

/-- The principal has the roles of the user. -/
theorem result_principalOf {roles : Option (List String)} (hroles : ((rolesOf h user).perform ch).1 = .ok roles) :
    ((do return some ⟨user, ← principalOf h username user⟩ : Exchange (Option Grant)).perform ch).1 =
      .ok (some ⟨user, ⟨username, roles.getD [], .null⟩⟩) := by
  have hprincipal : ((principalOf h username user).perform ch).1 = .ok ⟨username, roles.getD [], .null⟩ := by
    rw [principalOf, Session.perform_bind_of_ok (Prod.ext hroles rfl)]
    rfl
  rw [Session.perform_bind_of_ok (Prod.ext hprincipal rfl)]
  rfl

/-! ## §4 The search of the service -/

/-- A connection of the service, as far as requests depend on it. -/
def serviceConnection (s : Settings) (name : String) (attempt : Int) : Connection where
  wire := 0
  environment := .ofSettings s attempt
  namespaceName := name

/-- The request that searches for a user, on behalf of the service. -/
def userRequest (s : Settings) (name : String) (attempt : Int) (template : Template) (username : String) :
    SearchRequest :=
  searchRequest (serviceConnection s name attempt) s.userBase (template.fill [some (Filter.escape username)])
    (userControls s s.attributeIds)

end Exchange

/-- The service is let in: a connection can be opened for the settings, and their identity can be bound on it. The
directory knows it by this name. -/
structure Directory.LetsIn (d : Directory) (policy : Option TlsArguments) (s : Settings) (name : String)
    (attempt : Int) (service : Value) : Prop where
  connects : Connection.establishOutcome d .standard policy s = .ok (name, attempt)
  binds : d.bindOutcome (Environment.ofSettings s attempt) = .ok service

/-- A connection that was opened for the settings has the name and the identity that the service is let in by. -/
theorem Directory.LetsIn.established {policy : Option TlsArguments} {s : Settings} {name : String} {attempt : Int}
    {service : Value} {ch : Channel} (hin : ch.world.directory.LetsIn policy s name attempt service)
    (h : Connection.Established .standard policy s ch) :
    ch.connection.namespaceName = name ∧ ch.connection.environment.Agrees (Environment.ofSettings s attempt) := by
  obtain ⟨attempt', houtcome, henvironment⟩ := h.outcome
  rw [hin.connects, Except.ok.injEq, Prod.mk.injEq] at houtcome
  obtain ⟨hname, rfl⟩ := houtcome
  exact ⟨hname.symm, henvironment⟩

namespace Exchange

variable {h : Handle} {username name : String} {attempt : Int} {service : Value} {template : Template} {r : Response}
  {policy : Option TlsArguments} {ch : Channel}

/-- **The search of the service** over a connection that was opened for its settings: the bind goes through, whether or
not it is skipped, and the directory gives the answer that it has for the service. -/
theorem userSearch_answered (hestablished : Connection.Established .standard policy h.settings ch)
    (hin : ch.world.directory.LetsIn policy h.settings name attempt service)
    (htemplate : h.templates.userSearch = some template)
    (hanswer : ch.world.directory.search service (userRequest h.settings name attempt template username) = .ok r) :
    ∃ ch', UserSearch h username h.settings.attributeIds ch r ch' ∧ ch'.connection.namespaceName = name := by
  obtain ⟨hname, henvironment⟩ := hin.established hestablished
  have hbinds : ch.world.directory.bindOutcome ch.connection.environment = .ok service :=
    (Directory.bindOutcome_congr henvironment _).trans hin.binds
  have hresult := perform_bind_outcome ch hestablished.quiet hestablished.honest
  have hproceeds := bind_proceeds ch
  rw [hbinds] at hresult
  rcases hbind : bind.perform ch with ⟨result, bound⟩
  rw [hbind] at hresult hproceeds
  dsimp only [Except.map] at hresult hproceeds
  subst hresult
  -- the wire carries a name equal to the one that the directory knows the service by
  obtain ⟨v, v', hv, hwire, hequals⟩ := wireUser_of_bind_ok hestablished.honest hbind
  rw [hbinds] at hv
  cases hv
  have hrequest : searchRequest bound.connection h.settings.userBase
      (template.fill [some (Filter.escape username)]) (userControls h.settings h.settings.attributeIds) =
        userRequest h.settings name attempt template username := by
    simp only [userRequest, searchRequest, serviceConnection, Connection.fullName, hproceeds.namespaceName, hname,
      hproceeds.environment, henvironment.dereference_eq]
  have hsearch : ((World.searchWire bound.connection.wire (searchRequest bound.connection h.settings.userBase
      (template.fill [some (Filter.escape username)]) (userControls h.settings h.settings.attributeIds))).perform
        bound.world).1 = .ok r := by
    have hcarried : ((bound.world.wire? bound.connection.wire).map (·.boundUser)).getD .null = v' :=
      congrArg (·.getD .null) hwire
    rw [World.searchWire_eq, hproceeds.world.quiet hestablished.quiet, hcarried, World.search_congr hequals,
      hproceeds.world.directory, hrequest, hanswer]
    rfl
  refine ⟨_, .answered htemplate hbind (hproceeds.kind.trans hestablished.kind) (Prod.ext hsearch rfl), ?_⟩
  exact hproceeds.namespaceName.trans hname

end Exchange

end DirectoryLogin

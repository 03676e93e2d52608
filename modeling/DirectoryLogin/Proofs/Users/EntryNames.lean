import DirectoryLogin.Proofs.Groups.BoundedWork
import DirectoryLogin.Proofs.Name.ResultNames
/-!
# The Names of Users' Entries

A connection may have a name of its own, under which all other names are relative: the path of its URL. What is read
over it is read under its full name. The name of a user should be the full name of its entry, since the user is bound
by it and roles are searched by it. That is so for a user who was found by a search. A user who was found by a pattern
has the name that the pattern gives, without the connection's own name.

- `Exchange.userByPattern_reads`: what the lookup by a pattern reads, and whom it returns.
- `Exchange.bound_of_verifyByBind`, `Exchange.rolesOf_asks`: what the name of a user is used for.
- `Exchange.userOfEntry_fullName`: whom a search makes of the same entry.
- `pattern_user_lacks_namespace`: the entry that is read and the user have the same name just where the connection has
  no name of its own.
-/

namespace DirectoryLogin

/-! ## §1 Full names -/

/-- The request reads the entry of this name. -/
def Request.readsEntry (dn : String) : Request → Bool
  | .search request => request.scope == .base && request.base == dn
  | _ => false

theorem joinNames_pair (name base : String) :
    joinNames [name, base] = if name = "" then base else if base = "" then name else name ++ "," ++ base := by
  rw [joinNames_cons, joinNames_singleton]

/-- A full name is longer than the name by the connection's own one. -/
theorem Connection.fullName_eq_self_iff (c : Connection) (dn : String) :
    c.fullName dn = dn ↔ c.namespaceName = "" := by
  rw [fullName, joinNames_pair]
  by_cases hdn : dn = ""
  · rw [if_pos hdn, hdn]
  rw [if_neg hdn]
  by_cases hname : c.namespaceName = ""
  · rw [if_pos hname]
    exact iff_of_true rfl hname
  · -- a namespace that is not empty makes the name longer
    rw [if_neg hname]
    refine iff_of_false ?_ hname
    intro heq
    have hlength := congrArg String.length heq
    rw [String.length_append, String.length_append] at hlength
    have hcomma : ",".length = 1 := rfl
    omega

namespace Exchange

open Channel

variable {h : Handle} {s : Settings} {name dn base : String} {password : Option Password} {ids : List String}
  {index : Int} {user : User} {ch ch' ch₁ : Channel}

/-! ## §2 What is read -/

theorem readQuery_readsEntry (hkind : ch.connection.kind = .standard) (dn : String) (names : Option (List String)) :
    (readQuery ch.connection dn names).readsEntry (ch.connection.fullName dn) = true := by
  rw [readQuery, hkind]
  show (Scope.base == Scope.base && ch.connection.fullName dn == ch.connection.fullName dn) = true
  simp

/-- **Looking up an entry** by its name is reading it; an entry that is not there is no user. -/
theorem userByDn_eq (hids : ids ≠ []) (ch : Channel) :
    (userByDn s name ids dn).perform ch =
      match (read dn (some ids)).perform ch with
      | (.ok attributes, ch') => (.ok (attributes.map (User.ofEntry s (some name) dn)), ch')
      | (.error e, ch') =>
        if e.directoryKind? == some .nameNotFound then (.ok none, ch') else (.error e, ch') := by
  have hsome : ids.isEmpty = false := List.isEmpty_eq_false_iff.mpr hids
  rw [userByDn]
  simp only [hsome, Bool.false_eq_true, if_false]
  rw [Session.perform_bind, Session.perform_rescue_if]
  rcases (read dn (some ids)).perform ch with ⟨e | attributes, ch'⟩
  · by_cases hfound : (e.directoryKind? == some .nameNotFound) = true
    · simp only [hfound, if_true]
      rfl
    · simp only [hfound]
      rfl
  · rfl

/-- Whoever is found by the name of an entry has this name, and one query has read the entry. -/
theorem of_userByDn_some (hids : ids ≠ []) (hrun : (userByDn s name ids dn).perform ch = (.ok (some user), ch')) :
    user.dn = some dn ∧ user.username = some name ∧ ch.Asks [readQuery ch.connection dn (some ids)] ch' := by
  have honce := read_asksOnce dn (some ids) ch
  rw [userByDn_eq hids] at hrun
  -- the read fails, or is what the user is built from
  rcases hread : (read dn (some ids)).perform ch with ⟨e | attributes, ch₁⟩
  all_goals
    rw [hread] at hrun honce
    dsimp only at hrun
  · split at hrun
    · cases hrun
    · cases hrun
  · cases attributes with
    | none => cases hrun
    | some attributes =>
      cases hrun
      exact ⟨rfl, rfl, honce.asks_of_ok⟩

/-- A lookup by the name of an entry that fails has read nothing else. -/
theorem of_userByDn_error {e : Failure} (hids : ids ≠ [])
    (hrun : (userByDn s name ids dn).perform ch = (.error e, ch')) :
    Proceeds ch ch' ∧ ∃ queries, ch.Asks queries ch' ∧ ∀ q ∈ queries, q = readQuery ch.connection dn (some ids) := by
  obtain ⟨queries, hasks, -, hall⟩ := (read_asksOnce dn (some ids) ch).asks_le
  have hproceeds := read_proceeds dn (some ids) ch
  rw [userByDn_eq hids] at hrun
  -- only a failure of the read is raised
  rcases hread : (read dn (some ids)).perform ch with ⟨e' | attributes, ch₁⟩
  all_goals
    rw [hread] at hrun hasks hproceeds
    dsimp only at hrun
  · split at hrun
    · cases hrun
    · cases hrun
      exact ⟨hproceeds, queries, hasks, hall⟩
  · cases hrun

/-- What is done as a user is done in an environment with that user. -/
theorem of_boundAs {α : Type} {x : Exchange α} {result : Except Failure α} {who : Option String}
    (hrun : (boundAs s who password x).perform ch = (result, ch')) :
    ∃ ch₁ e, x.perform (ch.withEnvironment (ch.connection.environment.asUser who password)) = (result, ch₁) ∧
      ch' = ch₁.withEnvironment e := by
  rw [boundAs_eq] at hrun
  cases hrun
  exact ⟨_, _, rfl, rfl⟩

/-- **Looking up by a pattern**: every query reads the one entry that the pattern names, and there is one; the user
has the name that was filled into the pattern. -/
theorem userByPattern_reads (hids : ids ≠ [])
    (hrun : (userByPattern h (some name) password ids index).perform ch = (.ok (some user), ch')) :
    ∃ patterns pattern, h.templates.userPatterns = some patterns ∧ patternAt patterns index = .ok (some pattern) ∧
      user.dn = some (pattern.fill [some (Name.escapeValue name)]) ∧ user.username = some name ∧
      ∃ queries, ch.Asks queries ch' ∧ queries ≠ [] ∧
        ∀ q ∈ queries, q = readQuery ch.connection (pattern.fill [some (Name.escapeValue name)]) (some ids) := by
  unfold userByPattern at hrun
  rcases hpatterns : h.templates.userPatterns with _ | patterns
  · rw [hpatterns] at hrun
    cases hrun
  rw [hpatterns] at hrun
  obtain ⟨pattern, ch₀, hat, hrun⟩ := Session.of_perform_bind_ok hrun
  obtain rfl : ch = ch₀ := congrArg Prod.snd hat
  have hat : patternAt patterns index = .ok pattern := congrArg Prod.fst hat
  cases pattern with
  | none => cases hrun
  | some pattern =>
    refine ⟨patterns, pattern, rfl, hat, ?_⟩
    dsimp only at hrun
    generalize pattern.fill [some (Name.escapeValue name)] = dn at hrun ⊢
    rcases Session.of_perform_rescue_if hrun with ⟨hfirst, -⟩ | ⟨e, ch₁, hfirst, -, hrest⟩
    · obtain ⟨hdn, husername, hasks⟩ := of_userByDn_some hids hfirst
      exact ⟨hdn, husername, _, hasks, List.cons_ne_nil _ _, List.forall_mem_singleton.mpr rfl⟩
    · -- the service may not read the entry, and its owner does
      obtain ⟨hproceeds, before, hbefore, hall⟩ := of_userByDn_error hids hfirst
      obtain ⟨ch₂, e', hown, rfl⟩ := of_boundAs hrest
      obtain ⟨hdn, husername, hasks⟩ := of_userByDn_some hids hown
      have hsame : readQuery ch₁.connection dn (some ids) = readQuery ch.connection dn (some ids) :=
        readQuery_congr hproceeds.kind hproceeds.namespaceName (by rw [hproceeds.environment]) dn (some ids)
      rw [readQuery_asUser, hsame] at hasks
      refine ⟨hdn, husername, _, hbefore.trans (hasks.enter.leave e'), ?_, ?_⟩
      · exact List.append_ne_nil_of_right_ne_nil before (List.cons_ne_nil _ _)
      · exact List.forall_mem_append.mpr ⟨hall, List.forall_mem_singleton.mpr rfl⟩

/-! ## §3 What the name is used for -/

/-- A password is checked under the name of the user. -/
theorem principal_forCheck (e : Environment) (dn : String) (password : Option Password) :
    (e.forCheck (some dn) password).identity.principal = .text dn := by
  have hcredentials : Environment.principal ≠ Environment.credentials := by decide
  have hauthentication : Environment.principal ≠ Environment.authentication := by decide
  -- the mechanism may have been taken out, which leaves the principal as it is
  have hentry : (e.forCheck (some dn) password).get? Environment.principal = some (.text dn) := by
    unfold Environment.forCheck
    split
    · rw [Environment.get?_erase, if_neg hauthentication, Environment.asUser, Environment.get?_insert,
        if_neg hcredentials, Environment.get?_insert, if_pos rfl]
      rfl
    · rw [Environment.asUser, Environment.get?_insert, if_neg hcredentials, Environment.get?_insert, if_pos rfl]
      rfl
  show (e.forCheck (some dn) password).value Environment.principal = .text dn
  rw [Environment.value, hentry]
  rfl

/-- After a read that has gone through, the identity of the environment is the one that is bound. -/
theorem matches_of_read_ok {names : Option (List String)} {attributes : Option Attributes}
    (hrun : (read dn names).perform ch = (.ok attributes, ch')) :
    ∃ i, ch'.connection.bound = some i ∧ i.Matches ch.connection.environment.identity := by
  rw [read_eq] at hrun
  obtain ⟨_, ch₁, hbind, hbound⟩ := Session.of_perform_bind_ok hrun
  obtain ⟨faults, -, hstate⟩ := readBound_state dn names ch₁
  rw [hbound] at hstate
  obtain ⟨i, hi, hmatches⟩ := matches_of_bind_ok hbind
  dsimp only at hstate
  subst hstate
  exact ⟨i, hi, hmatches⟩

/-- **Checking a password** by a bind: whoever is bound after an accepted check has the name of the user. -/
theorem bound_of_verifyByBind (hdn : user.dn = some dn)
    (hrun : (verifyByBind s user password).perform ch = (.ok true, ch')) :
    ∃ i, ch'.connection.bound = some i ∧ i.principal = .text dn := by
  rw [verifyByBind_eq] at hrun
  split at hrun
  · cases hrun
  rcases hcheck : checkBound.perform (ch.withEnvironment (ch.connection.environment.forCheck user.dn password))
    with ⟨result, ch₁⟩
  rw [bracketed, Session.perform_ofFunction, hcheck] at hrun
  cases hrun
  show ∃ i, ch₁.connection.bound = some i ∧ i.principal = .text dn
  -- the check rests on a read of the root, and that on a bind as the user
  obtain ⟨attributes, hread⟩ := read_ok_of_checkBound hcheck
  obtain ⟨i, hi, hmatches⟩ := matches_of_read_ok hread
  refine ⟨i, hi, ?_⟩
  have hprincipal := hmatches.principal
  rw [hdn] at hprincipal
  have henvironment := principal_forCheck ch.connection.environment dn password
  exact (Value.equals_text_right _ _).mp (henvironment ▸ hprincipal)

/-- **Searching for roles**: the first query has the name of the user in its filter. -/
theorem rolesOf_asks {template : Template} {roles : Option (List String)} (hdn : user.dn = some dn)
    (husername : user.username = some name) (htemplate : h.templates.roleSearch = some template)
    (hname : h.settings.roleName.isSome) (hrun : (rolesOf h user).perform ch = (.ok roles, ch')) :
    ∃ base queries, roleBase h dn = .ok base ∧
      ch.Asks (searchQuery ch.connection base (roleFilter template dn name user.roleId) (roleControls h.settings) ::
        queries) ch' := by
  obtain ⟨roleName, hname⟩ := Option.isSome_iff_exists.mp hname
  rw [rolesOf, hdn, husername] at hrun
  dsimp only at hrun
  rw [htemplate, hname] at hrun
  dsimp only at hrun
  obtain ⟨base, ch₀, hbase, hrun⟩ := Session.of_perform_bind_ok hrun
  obtain rfl : ch = ch₀ := congrArg Prod.snd hbase
  have hbase : roleBase h dn = .ok base := congrArg Prod.fst hbase
  obtain ⟨groups, ch₁, hsearch, hrest⟩ := Session.of_perform_bind_ok hrun
  have honce := searchGroups_asksOnce h.settings user base (roleFilter template dn name user.roleId) ch
  rw [hsearch] at honce
  -- whatever is searched for after that, it comes after that
  have hafter : Channel.Serves h.settings ch₁ ch' := by
    split at hrest
    · obtain ⟨_, _, hnested, hreturn⟩ := Session.of_perform_bind_ok hrest
      cases hreturn
      exact Orderly.nestedGroups.serves.of_perform hnested
    · cases hrest
      exact refl_of _ _
  obtain ⟨queries, hqueries⟩ := hafter.toSteady.asks
  exact ⟨base, queries, hbase, honce.asks_of_ok.trans hqueries⟩

/-! ## §4 The same entry found by a search -/

/-- Names may be put together from either end. -/
theorem joinNames_assoc {front : String} (hfront : front ≠ "") (base last : String) :
    joinNames [joinNames [front, base], last] = joinNames [front, joinNames [base, last]] := by
  simp only [joinNames_pair, if_neg hfront]
  by_cases hbase : base = ""
  · simp [hbase, hfront]
  · by_cases hlast : last = ""
    · simp [hbase, hlast]
    · simp [hbase, hlast, String.append_assoc]

/-- A name that was put together with a base is below it. -/
theorem below_joinNames {front full : String} (hfront : front ≠ "") (hfull : full ≠ "") :
    Name.Below full (joinNames [front, full]) front.toList full.toList where
  nonempty := hfull
  split := by
    rw [joinNames_pair, if_neg hfront, if_neg hfull, String.toList_append, String.toList_append, List.append_assoc]
    rfl
  same := by
    rw [String.ofList_toList]
    exact Text.sameIgnoringCase_iff.mpr rfl

/-- The name of an entry below the base is handed out and composed again as it was. -/
theorem ofResult_joinNames {front namespaceName : String} {attributes : Option Attributes} (hfront : front ≠ "")
    (hdotted : Text.dottedI ∉ (joinNames [base, namespaceName]).toList) :
    Name.ofResult namespaceName base
        (Results.ofEntry (joinNames [base, namespaceName]) (joinNames [front, joinNames [base, namespaceName]])
          attributes) false =
      .ok (joinNames [front, joinNames [base, namespaceName]]) := by
  have hrelative (name : String) := Name.ofResult_relative namespaceName base name (some (Attributes.decode attributes))
  generalize joinNames [base, namespaceName] = full at hdotted hrelative ⊢
  have hhanded := Name.handed_nameBelow full (joinNames [front, full])
  rw [Results.ofEntry]
  generalize hnamed : Results.nameBelow full (joinNames [front, full]) = named at hhanded ⊢
  cases hhanded with
  | everything hfull =>
    rw [hrelative, hfull]
    exact congrArg Except.ok (joinNames_singleton _)
  | start hfull hsame =>
    rw [(below_joinNames hfront hfull).notSame] at hsame
    cases hsame
  | below h =>
    -- only one ending of the name is the base
    have hbelow := below_joinNames hfront h.nonempty
    obtain ⟨hfronts, rfl⟩ := Text.append_inj_of_lowerAfter_eq (h.toList_eq.symm.trans hbelow.toList_eq)
      (h.lowerAfter_tail.trans hbelow.lowerAfter_tail.symm)
    obtain rfl := List.append_cancel_right hfronts
    rw [hrelative, Name.kept_eq_self hdotted, String.ofList_toList]
  | outside h => exact absurd (below_joinNames hfront h.nonempty) (h.notBelow _ _)

/-- **A search returns full names**: an entry below the base of the search is taken for a user with its full name, if
nothing is cut short or rewritten in it. -/
theorem userOfEntry_fullName {c : Connection} {front : String} (hescape : s.forceDnHexEscape = false)
    (hfront : front ≠ "") (hdotted : Text.dottedI ∉ (c.fullName s.userBase).toList)
    (hdn : dn = joinNames [front, s.userBase]) (attributes : Option Attributes) :
    ∃ found, userOfEntry s name c (c.fullName dn, attributes) = .ok found ∧ found.dn = some (c.fullName dn) := by
  have hfull : c.fullName dn = joinNames [front, joinNames [s.userBase, c.namespaceName]] := by
    rw [hdn]
    exact joinNames_assoc hfront _ _
  have hread : Name.ofResult c.namespaceName s.userBase
      (Results.ofEntry (c.fullName s.userBase) (c.fullName dn) attributes) s.forceDnHexEscape =
        .ok (c.fullName dn) := by
    rw [hescape, hfull]
    exact ofResult_joinNames hfront hdotted
  rw [userOfEntry, hread]
  exact ⟨_, rfl, rfl⟩

end Exchange

/-! ## §5 The theorem -/

open Exchange

/-- **A user who was found by a pattern lacks the connection's own name.** Let a lookup by a pattern, which reads
attributes, return a user, over a connection to the directory. Then all that was read is the entry with the full name
of what the pattern gives, while the name of the user is what the pattern gives. By this name an accepted check of the
password binds the user, and by this name roles are searched. It is the name of the entry that was read just where the
connection has no name of its own. A search that finds the same entry below its base returns a user with the full
name, so the two lookups agree just there. -/
theorem pattern_user_lacks_namespace {h : Handle} {name : String} {password : Option Password} {ids : List String}
    {index : Int} {ch ch' : Channel} {user : User} (hkind : ch.connection.kind = .standard) (hids : ids ≠ [])
    (hrun : (userByPattern h (some name) password ids index).perform ch = (.ok (some user), ch')) :
    ∃ dn, user.dn = some dn ∧
      (∃ patterns pattern, h.templates.userPatterns = some patterns ∧ patternAt patterns index = .ok (some pattern) ∧
        dn = pattern.fill [some (Name.escapeValue name)]) ∧
      (∃ queries, ch.Asks queries ch' ∧ queries ≠ [] ∧
        ∀ q ∈ queries, q.readsEntry (ch.connection.fullName dn) = true) ∧
      (∀ s password ch₁ ch₂, (verifyByBind s user password).perform ch₁ = (.ok true, ch₂) →
        ∃ i, ch₂.connection.bound = some i ∧ i.principal = .text dn) ∧
      (∀ template ch₁ ch₂ roles, h.templates.roleSearch = some template → h.settings.roleName.isSome →
        (rolesOf h user).perform ch₁ = (.ok roles, ch₂) →
          ∃ base queries, ch₁.Asks (searchQuery ch₁.connection base (roleFilter template dn name user.roleId)
            (roleControls h.settings) :: queries) ch₂) ∧
      (ch.connection.fullName dn = dn ↔ ch.connection.namespaceName = "") ∧
      ∀ front attributes, front ≠ "" → dn = joinNames [front, h.settings.userBase] →
        h.settings.forceDnHexEscape = false →
        Text.dottedI ∉ (ch.connection.fullName h.settings.userBase).toList →
          ∃ found, userOfEntry h.settings name ch.connection (ch.connection.fullName dn, attributes) = .ok found ∧
            found.dn = some (ch.connection.fullName dn) ∧ (found.dn = user.dn ↔ ch.connection.namespaceName = "") := by
  obtain ⟨patterns, pattern, hpatterns, hat, hdn, husername, queries, hasks, hsome, hall⟩ :=
    userByPattern_reads hids hrun
  refine ⟨_, hdn, ⟨patterns, pattern, hpatterns, hat, rfl⟩, ⟨queries, hasks, hsome, ?_⟩, ?_, ?_, ?_, ?_⟩
  · -- the requests read the entry of the full name
    intro q hq
    rw [hall q hq]
    exact readQuery_readsEntry hkind _ _
  · -- but the bind and the role search take the name without the namespace
    intro s password ch₁ ch₂ hcheck
    exact bound_of_verifyByBind hdn hcheck
  · intro template ch₁ ch₂ roles htemplate hname hroles
    obtain ⟨base, more, -, hmore⟩ := rolesOf_asks hdn husername htemplate hname hroles
    exact ⟨base, more, hmore⟩
  · exact ch.connection.fullName_eq_self_iff _
  · -- a search would have found the entry under its full name
    intro front attributes hfront hbase hescape hdotted
    obtain ⟨found, hfound, hname⟩ := userOfEntry_fullName hescape hfront hdotted hbase attributes
    refine ⟨found, hfound, hname, ?_⟩
    rw [hname, hdn, Option.some.injEq]
    exact ch.connection.fullName_eq_self_iff _

/-! ### Runs -/

/-- Settings with one pattern, that read an attribute. -/
def Settings.withOnePattern : Settings where
  connectionUrl := some "ldap://directory/dc=example"
  userPattern := some "uid=\x7b0\x7d"
  userRoleName := some "title"

def Handle.withOnePattern : Handle where
  snapshot := ⟨0, .withOnePattern⟩
  pooled := false
  templates :=
    { userSearch := none
      userPatterns := some [⟨"uid=\x7b0\x7d", "uid=".toList.map .literal ++ [.slot 0]⟩]
      roleBase := none
      roleSearch := none }

/-- A new connection with a name of its own, to a directory with an entry under that name. -/
def Channel.ofOwnName (namespaceName : String) : Channel where
  connection :=
    { wire := 1, environment := .ofSettings .withOnePattern 0, namespaceName := namespaceName }
  world :=
    { wires := [{ isOpen := true }]
      directory := { entries := [(joinNames ["uid=ada", namespaceName], [("title", .list [.text "keeper"])])] } }

/-- The user that the pattern gives. -/
def User.ofPattern : User where
  username := some "ada"
  dn := some "uid=ada"
  roles := ["keeper"]

/-- Over a connection without a name of its own, the entry that is read is that of the user. -/
theorem user_of_entry_without_own_name :
    ∃ ch, (userByPattern .withOnePattern (some "ada") none ["title"] 0).perform (.ofOwnName "") =
        (.ok (some .ofPattern), ch) ∧
      ∃ queries, (Channel.ofOwnName "").Asks queries ch ∧ queries ≠ [] ∧
        ∀ q ∈ queries, q.readsEntry "uid=ada" = true := by
  have hrun : (userByPattern .withOnePattern (some "ada") none ["title"] 0).perform (.ofOwnName "") =
      (.ok (some .ofPattern),
        ((userByPattern .withOnePattern (some "ada") none ["title"] 0).perform (.ofOwnName "")).2) :=
    Prod.ext (by decide +kernel) rfl
  obtain ⟨dn, hdn, -, ⟨queries, hasks, hsome, hall⟩, -, -, hsame, -⟩ :=
    pattern_user_lacks_namespace rfl (List.cons_ne_nil _ _) hrun
  obtain rfl : "uid=ada" = dn := Option.some.inj hdn
  rw [hsame.mpr rfl] at hall
  exact ⟨_, hrun, queries, hasks, hsome, hall⟩

/-- The path of the URL is the connection's own name. Over that connection the entry under it is read for a user
without it, while a search makes a user with the whole name of the same entry. -/
theorem user_lacks_path_of_url :
    Templates.compile .withOnePattern = .ok Handle.withOnePattern.templates ∧
      (ProviderUrl.parse "ldap://directory/dc=example").map (·.namespaceName) = .ok "dc=example" ∧
      ((userByPattern .withOnePattern (some "ada") none ["title"] 0).perform (.ofOwnName "dc=example")).1 =
        .ok (some .ofPattern) ∧
      ((userByPattern .withOnePattern (some "ada") none ["title"] 0).perform
        (.ofOwnName "dc=example")).2.world.events.map (fun event =>
          (event.request.isBind, event.request.readsEntry "uid=ada,dc=example")) = [(true, false), (false, true)] ∧
      (userOfEntry .withOnePattern "ada" (Channel.ofOwnName "dc=example").connection
        ("uid=ada,dc=example", some [])).map (·.dn) = .ok (some "uid=ada,dc=example") := by
  refine ⟨?_, ?_, ?_, ?_, ?_⟩
  all_goals decide +kernel

end DirectoryLogin

import DirectoryLogin.Proofs.Groups.BreadthFirst
import DirectoryLogin.Proofs.Opening
import DirectoryLogin.Proofs.Similar
/-!
# Nested Roles

The roles of a user are looked up by searches whose filters are made of the groups found so far. Over a directory that
does not change, and without faults, the searches that follow each other come to a breadth first search of the groups:
each group leads to those that the search for it returns.

- `Directory.results`: everything that the directory can return; there is not more of it than its extent.
- `Exchange.closeOver_run`: the queue discovers what a breadth first search discovers, and never runs out of steps.
- `nested_roles_breadth_first`: the roles of a user are those of the discovered groups.
-/

namespace DirectoryLogin

/-! ## §1 What a directory can return -/

namespace Results

/-- The result that an item comes to, if it is an entry. -/
def ofItem? (base : String) : ResponseItem → Option SearchResult
  | .entry dn attributes => some (ofEntry base dn attributes)
  | _ => none

theorem items_ofItems_subset (base : String) (isReferred asReferral : Bool) (items : List ResponseItem) :
    (ofItems base isReferred asReferral items).items ⊆ items.filterMap (ofItem? base) := by
  induction items with
  | nil => exact List.nil_subset _
  | cons item rest ih =>
    cases item with
    | reference uris => exact List.nil_subset _
    | entry dn attributes => exact List.cons_subset_cons _ ih
    | other => exact ih

end Results

namespace Directory

/-- Every item of an answer below an entry, whatever the filter is. -/
def items (d : Directory) (wanted : Wanted) : List ResponseItem :=
  (d.answers.flatMap (·.2)).filterMap (d.itemOf? wanted) ++ (d.fixedResponse.map (·.items)).getD []

/-- Every result of a search below an entry, whatever the filter is. -/
def results (d : Directory) (kind : ConnectionKind) (base : String) (wanted : Wanted) : List SearchResult :=
  match kind with
  | .standard => (d.items wanted).filterMap (Results.ofItem? base)
  | .prepared => d.prepared.flatMap (·.2)

/-- **The extent** of a directory bounds the results of all searches together. -/
theorem length_results_le (d : Directory) (kind : ConnectionKind) (base : String) (wanted : Wanted) :
    (d.results kind base wanted).length ≤ d.extent := by
  unfold extent
  cases kind with
  | standard =>
    -- every answer and the fixed response count towards the extent
    have hitems : (d.items wanted).length ≤
        (d.answers.flatMap (·.2)).length + (d.fixedResponse.map (·.items.length)).getD 0 := by
      rw [items, List.length_append]
      have hanswers := List.length_filterMap_le (d.itemOf? wanted) (d.answers.flatMap (·.2))
      have hfixed : ((d.fixedResponse.map (·.items)).getD []).length =
          (d.fixedResponse.map (·.items.length)).getD 0 := by
        rcases d.fixedResponse <;> rfl
      omega
    -- and the results are among these items
    have hresults := List.length_filterMap_le (Results.ofItem? base) (d.items wanted)
    simp only [results]
    omega
  | prepared =>
    simp only [results]
    omega

/-- A search below an entry returns some of these items. -/
theorem items_of_search {d : Directory} {user : Value} {request : SearchRequest} {response : Response}
    (hscope : request.scope ≠ .base) (h : d.search user request = .ok response) :
    response.items ⊆ d.items request.wanted := by
  unfold search at h
  split at h
  · -- a fixed response is the last part of the items
    rename_i hfixed
    cases h
    rw [items, hfixed]
    exact List.subset_append_right _ _
  · -- otherwise the answer is one of those to a filter
    have hanswer : response = d.answer request.filter request.wanted := by
      split at h
      · contradiction
      all_goals
        cases h
        rfl
    rw [hanswer, answer, items]
    refine List.Subset.trans (List.filterMap_subset _ fun item hitem => ?_) (List.subset_append_left _ _)
    rcases hlookup : d.answers.lookup request.filter with _ | answers
    · rw [hlookup] at hitem
      cases hitem
    · rw [hlookup] at hitem
      obtain ⟨before, after, hsplit, -⟩ := List.lookup_eq_some_iff.mp hlookup
      rw [hsplit]
      exact List.mem_flatMap.mpr ⟨_, List.mem_append_right _ List.mem_cons_self, hitem⟩

end Directory

theorem Channel.Similar.trans {ch₁ ch₂ ch₃ : Channel} (h : ch₁.Similar ch₂)
    (g : ch₂.Similar ch₃) : ch₁.Similar ch₃ where
  kind := h.kind.trans g.kind
  namespaceName := h.namespaceName.trans g.namespaceName
  environment := h.environment.trans g.environment
  directory := h.directory.trans g.directory
  quiet := ⟨h.quiet.1, g.quiet.2⟩
  honest := ⟨h.honest.1, g.honest.2⟩

namespace Exchange

variable {α : Type} {s : Settings} {user : User} {base filter : String} {controls : SearchControls} {ch ch' : Channel}

/-! ## §2 One search for groups -/

/-- Everything that a search can return over a connection, whatever the filter is. -/
def resultsOver (ch : Channel) (base : String) (controls : SearchControls) : List SearchResult :=
  ch.world.directory.results ch.connection.kind (ch.connection.fullName base)
    (searchRequest ch.connection base "" controls).wanted

theorem search_subset {results : Results} (h : ((search base filter controls).perform ch).1 = .ok results) :
    results.items ⊆ resultsOver ch base controls := by
  rcases hrun : (search base filter controls).perform ch with ⟨result, ch'⟩
  rw [hrun] at h
  subst h
  rw [search_eq] at hrun
  obtain ⟨_, ch₁, hbind, h⟩ := Session.of_perform_bind_ok hrun
  -- the bind leaves alone whatever the results depend on
  have hproceeds := bind_proceeds.of_perform hbind
  have hover : resultsOver ch base controls = resultsOver ch₁ base controls := by
    simp only [resultsOver, searchRequest, Connection.fullName, hproceeds.world.directory, hproceeds.kind,
      hproceeds.namespaceName]
  rw [hover, resultsOver]
  rw [searchBound_eq] at h
  cases hkind : ch₁.connection.kind with
  | standard =>
    simp only [hkind] at h
    have hresult := congrArg Prod.fst h
    simp only [World.searchWire_eq] at hresult
    generalize (((ch₁.world.wire? ch₁.connection.wire).map (·.boundUser)).getD .null) = wireUser at hresult
    split at hresult
    · rcases hanswer : ch₁.world.directory.search wireUser (searchRequest ch₁.connection base filter controls)
        with error | response
      · simp only [hanswer] at hresult
        cases hresult
      · simp only [hanswer] at hresult
        cases hresult
        have hscope : (searchRequest ch₁.connection base filter controls).scope ≠ .base := by
          simp only [searchRequest]
          split <;> decide
        have hitems := Directory.items_of_search hscope hanswer
        exact List.Subset.trans (Results.items_ofItems_subset _ _ _ _) (List.filterMap_subset _ hitems)
    · cases hresult
  | prepared =>
    simp only [hkind] at h
    cases h
    intro r hr
    dsimp only at hr
    rcases hlookup : ch₁.world.directory.prepared.lookup filter with _ | results
    · rw [hlookup] at hr
      cases hr
    · rw [hlookup] at hr
      obtain ⟨before, after, hsplit, -⟩ := List.lookup_eq_some_iff.mp hlookup
      rw [Directory.results, hsplit]
      exact List.mem_flatMap.mpr ⟨_, List.mem_append_right _ List.mem_cons_self, hr⟩

/-- Acting as the user makes no difference to what can be returned. -/
theorem searchAs_subset {results : Results}
    (h : ((searchAs s user base filter controls).perform ch).1 = .ok results) :
    results.items ⊆ resultsOver ch base controls := by
  unfold searchAs at h
  split at h
  · have hsubset : results.items ⊆
        resultsOver (ch.withEnvironment (ch.connection.environment.asUser user.dn user.password)) base controls :=
      search_subset h
    exact hsubset
  · exact search_subset h

theorem collectGroups_distinct {namespaceName : String} {groups found : List Group} {results : List SearchResult}
    (h : collectGroups s namespaceName base groups results = .ok found) (hgroups : Group.Distinct groups) :
    Group.Distinct found := by
  induction results generalizing groups with
  | nil =>
    cases h
    exact hgroups
  | cons r rest ih =>
    unfold collectGroups at h
    split at h
    · exact ih h hgroups
    · -- a result with a name that can be read is put in, and what is there already stays
      rcases hname : Name.ofResult namespaceName base r s.forceDnHexEscape with e | dn
      · rw [hname] at h
        cases h
      · rw [hname] at h
        split at h
        · exact ih h (hgroups.put _)
        · exact ih h hgroups

/-- The entry of a result names a role. -/
def namesRole (s : Settings) (r : SearchResult) : Bool :=
  (Attributes.first? s.roleName r.attributes).isSome

/-- Every group that is collected has the name of a result that names a role. -/
theorem collectGroups_named {namespaceName : String} {groups found : List Group} {results : List SearchResult}
    (h : collectGroups s namespaceName base groups results = .ok found) {dn : String}
    (hdn : dn ∈ found.map (·.dn)) :
    dn ∈ groups.map (·.dn) ∨
      ∃ r ∈ results, namesRole s r = true ∧ Name.ofResult namespaceName base r s.forceDnHexEscape = .ok dn := by
  induction results generalizing groups with
  | nil =>
    cases h
    exact .inl hdn
  | cons r rest ih =>
    have hrest {groups : List Group} (h : collectGroups s namespaceName base groups rest = .ok found) :
        dn ∈ groups.map (·.dn) ∨
          ∃ r' ∈ r :: rest, namesRole s r' = true ∧
            Name.ofResult namespaceName base r' s.forceDnHexEscape = .ok dn :=
      (ih h).imp_right fun ⟨r', hr', hname⟩ => ⟨r', List.mem_cons_of_mem r hr', hname⟩
    unfold collectGroups at h
    split at h
    · exact hrest h
    · rename_i attributes hattributes
      rcases hname : Name.ofResult namespaceName base r s.forceDnHexEscape with e | other
      · rw [hname] at h
        cases h
      · rw [hname] at h
        split at h
        · -- the entry of this result may be the one that is asked for
          rename_i name hrole
          have hnames : namesRole s r = true := by rw [namesRole, hattributes, hrole]; rfl
          refine (hrest h).elim (fun hput => ?_) .inr
          rw [Group.dns_put] at hput
          split at hput
          · exact .inl hput
          · rcases List.mem_append.mp hput with hold | hnew
            · exact .inl hold
            · rw [List.mem_singleton.mp hnew]
              exact .inr ⟨r, List.mem_cons_self, hnames, hname⟩
        · exact hrest h

/-- The groups that a search finds were collected from its results. -/
theorem of_searchGroups_ok {found : List Group} (h : (searchGroups s user base filter).perform ch = (.ok found, ch')) :
    ∃ results ch₁, (searchAs s user base filter (roleControls s)).perform ch = (.ok results, ch₁) ∧
      collectGroups s ch₁.connection.namespaceName base [] results.items = .ok found := by
  obtain ⟨results, ch₁, hsearch, h⟩ := Session.of_perform_bind_ok h
  rw [Session.perform_bind_of_ok (perform_connection ch₁)] at h
  obtain ⟨groups, ch₂, hcollect, h⟩ := Session.of_perform_bind_ok h
  obtain ⟨_, ch₃, -, hreturn⟩ := Session.of_perform_bind_ok h
  cases hreturn
  exact ⟨results, ch₁, hsearch, congrArg Prod.fst hcollect⟩

/-- The names that groups can have which are found over a connection. -/
def namesOver (s : Settings) (ch : Channel) (base : String) : List String :=
  ((resultsOver ch base (roleControls s)).filter (namesRole s)).filterMap fun r =>
    (Name.ofResult ch.connection.namespaceName base r s.forceDnHexEscape).toOption

theorem length_namesOver_le (s : Settings) (ch : Channel) (base : String) :
    (namesOver s ch base).length ≤ ch.world.directory.extent :=
  calc (namesOver s ch base).length
      ≤ ((resultsOver ch base (roleControls s)).filter (namesRole s)).length := List.length_filterMap_le _ _
    _ ≤ (resultsOver ch base (roleControls s)).length := List.length_filter_le _ _
    _ ≤ ch.world.directory.extent := ch.world.directory.length_results_le _ _ _

/-- **A search for groups** returns an entry once, and only entries of the directory that name a role. -/
theorem searchGroups_ok {found : List Group} (h : ((searchGroups s user base filter).perform ch).1 = .ok found) :
    Group.Distinct found ∧ found.map (·.dn) ⊆ namesOver s ch base := by
  obtain ⟨results, ch₁, hsearch, hcollect⟩ :=
    of_searchGroups_ok (Prod.ext h rfl : (searchGroups s user base filter).perform ch = (_, _))
  refine ⟨collectGroups_distinct hcollect List.nodup_nil, fun dn hdn => ?_⟩
  have hserves := (Orderly.searchAs (s := s)).serves.of_perform hsearch
  rcases collectGroups_named hcollect hdn with hnone | ⟨r, hr, hnames, hname⟩
  · cases hnone
  · have hover := List.mem_filter.mpr ⟨searchAs_subset (congrArg Prod.fst hsearch) hr, hnames⟩
    refine List.mem_filterMap.mpr ⟨r, hover, ?_⟩
    rw [← hserves.namespaceName, hname]
    rfl

/-! ## §3 The queue -/

/-- A program for some settings leaves a channel of the service as it was, as far as programs can tell. -/
theorem Orderly.similar_after {P : α → Prop} {x : Exchange α} (hx : Orderly s P x)
    (hservice : ch.connection.environment.HasService s) (hquiet : ch.world.faults = []) (hhonest : ch.Honest) :
    ch.Similar (x.perform ch).2 := by
  have hserves := hx.serves ch
  exact {
    kind := hserves.kind.symm
    namespaceName := hserves.namespaceName.symm
    environment := (hserves.environment.agrees hservice).symm
    directory := hserves.world.directory.symm
    quiet := ⟨hquiet, hserves.world.quiet hquiet⟩
    honest := ⟨hhonest, hserves.honest hhonest⟩ }

section Nested

variable {template : Template} {initial : List Group} {find : Group → List Group}
  (hservice : ch.connection.environment.HasService s) (hquiet : ch.world.faults = []) (hhonest : ch.Honest)
  (hfind : ∀ g, Group.Reachable find initial g →
    ((searchGroups s user base (nestedFilter template g)).perform ch).1 = .ok (find g))
include hservice hquiet hhonest hfind

/-- **The queue** discovers what a breadth first search discovers. It has a step for every group that can be found, so
that none is left waiting. -/
theorem closeOver_run {finished waiting : List Group} (bound : Nat) (hsimilar : ch.Similar ch')
    (hprogress : Group.Progress find initial finished waiting)
    (hbound : initial.length + ch.world.directory.extent ≤ bound + finished.length) :
    ∃ groups, ((closeOver s user base template bound finished waiting).perform ch').1 = .ok groups ∧
      Group.BreadthFirst find initial groups := by
  -- on the number of steps that are left; a step keeps the queue a search on its way
  induction bound generalizing finished waiting ch' with
  | zero =>
    cases waiting with
    | nil => exact ⟨finished, rfl, hprogress.breadthFirst⟩
    | cons g waiting =>
      have hlength := hprogress.length_le fun g hg => (searchGroups_ok (hfind g hg)).2
      have hextent := length_namesOver_le s ch base
      rw [List.length_append, List.length_cons] at hlength
      omega
  | succ bound ih =>
    cases waiting with
    | nil => exact ⟨finished, rfl, hprogress.breadthFirst⟩
    | cons g waiting =>
      have hreachable := (hprogress.reached g (List.mem_append_right _ List.mem_cons_self)).reachable
      -- the search finds now what it would have found at the beginning
      have horderly : Orderly s (fun _ => True) (searchGroups s user base (nestedFilter template g)) :=
        Orderly.searchGroups
      obtain ⟨hresult, hsimilar₁⟩ := horderly.similar hsimilar
      rw [hfind g hreachable] at hresult
      have hprogress₁ := hprogress.step (searchGroups_ok (hfind g hreachable)).1
      obtain ⟨groups, hrun, hgroups⟩ := ih ((horderly.similar_after hservice hquiet hhonest).trans hsimilar₁) hprogress₁
        (by rw [List.length_append, List.length_singleton]; omega)
      refine ⟨groups, ?_, hgroups⟩
      rw [closeOver, Session.perform_bind_of_ok (Prod.ext hresult.symm rfl)]
      exact hrun

end Nested

end Exchange

/-! ## §4 The theorem -/

open Exchange

/-- **Nested roles** are looked up breadth first. Let the search for the groups of a user, over a connection of the
service to a directory without faults, return `initial`, and the search for any group that can be reached from those
return what `find` says. Then the roles of the user are its own, the one that every user has, and those of the groups
that a breadth first search discovers: each entry once, in the order of discovery, under the role name that it was
first found with. Where no entry goes by two role names, these are exactly the groups that can be reached. -/
theorem nested_roles_breadth_first {h : Handle} {user : User} {ch : Channel} {dn username base : String}
    {template : Template} {initial : List Group} {find : Group → List Group}
    (hservice : ch.connection.environment.HasService h.settings) (hquiet : ch.world.faults = []) (hhonest : ch.Honest)
    (hdn : user.dn = some dn) (husername : user.username = some username)
    (htemplate : h.templates.roleSearch = some template) (hname : h.settings.roleName.isSome)
    (hnested : h.settings.roleNested = true) (hbase : roleBase h dn = .ok base)
    (hinitial : ((searchGroups h.settings user base (roleFilter template dn username user.roleId)).perform ch).1 =
      .ok initial)
    (hfind : ∀ g, Group.Reachable find initial g →
      ((searchGroups h.settings user base (nestedFilter template g)).perform ch).1 = .ok (find g)) :
    ∃ groups, ((rolesOf h user).perform ch).1 =
        .ok (some (user.roles ++ h.settings.commonRole.toList ++ groups.map (·.name))) ∧
      Group.BreadthFirst find initial groups ∧
      ((∀ f g, Group.Reachable find initial f → Group.Reachable find initial g → f.dn = g.dn → f = g) →
        ∀ g, g ∈ groups ↔ Group.Reachable find initial g) := by
  have horderly : Orderly h.settings (fun _ => True)
      (searchGroups h.settings user base (roleFilter template dn username user.roleId)) := Orderly.searchGroups
  have hsimilar := horderly.similar_after hservice hquiet hhonest
  rcases hsearch : (searchGroups h.settings user base (roleFilter template dn username user.roleId)).perform ch
    with ⟨result, ch₁⟩
  rw [hsearch] at hinitial hsimilar
  dsimp only at hinitial hsimilar
  subst hinitial
  have hdirectory : ch₁.world.directory = ch.world.directory := hsimilar.directory.symm
  -- the search for nested groups begins with what the search for the user's groups has returned
  obtain ⟨groups, hgroups, hbreadth⟩ := closeOver_run hservice hquiet hhonest hfind
    (initial.length + ch₁.world.directory.extent) hsimilar
    (Group.Progress.start (searchGroups_ok (congrArg Prod.fst hsearch)).1)
    (by rw [hdirectory, List.length_nil]; exact Nat.le_refl _)
  have hrun : ((nestedGroups h.settings user base template initial).perform ch₁).1 = .ok groups := hgroups
  refine ⟨groups, ?_, hbreadth, fun hnames g => hbreadth.mem_iff hnames⟩
  obtain ⟨name, hname⟩ := Option.isSome_iff_exists.mp hname
  rw [rolesOf, hdn, husername]
  dsimp only
  rw [htemplate, hname]
  dsimp only
  rw [hbase, Session.perform_bind_of_ok (Session.perform_ofExcept (.ok base) ch), Session.perform_bind_of_ok hsearch,
    if_pos hnested, Session.perform_bind_of_ok (Prod.ext hrun rfl)]
  rfl

/-! ### Runs -/

/-- A filter that asks for an entry, and for a name. -/
def Template.ofMembers : Template where
  pattern := "(|(member={0})(gid={1}))"
  pieces :=
    "(|(member=".toList.map .literal ++ .slot 0 :: ")(gid=".toList.map .literal ++ .slot 1 ::
      "))".toList.map .literal

/-- Settings with nested roles. -/
def Settings.withGroups : Settings where
  connectionUrl := some "ldap://directory"
  roleSearch := some Template.ofMembers.pattern
  roleName := some "cn"
  roleNested := true

def Handle.withGroups : Handle where
  snapshot := ⟨0, .withGroups⟩
  pooled := false
  templates := { userSearch := none, userPatterns := none, roleBase := none, roleSearch := some .ofMembers }

def User.member : User where
  username := some "ada"
  dn := some "uid=ada"
  roles := ["staff"]

/-- A new connection to a directory that answers filters with groups. -/
def Channel.ofGroups (answers : List (String × List Group)) : Channel where
  connection := { wire := 1, environment := .ofSettings .withGroups 0 }
  world :=
    { wires := [{ isOpen := true }]
      directory :=
        { answers := answers.map fun (filter, groups) =>
            (filter, groups.map fun g => .item (.entry g.dn (some [("cn", .list [.text g.name])]))) } }

/-- What a search for groups returns. -/
def Channel.roleSearch (ch : Channel) (filter : String) : Except Failure (List Group) :=
  ((searchGroups .withGroups .member "" filter).perform ch).1

/-- What the search for a group finds. -/
def Channel.leadsTo (ch : Channel) (g : Group) : List Group :=
  (ch.roleSearch (nestedFilter .ofMembers g)).toOption.getD []

/-- The groups that a user is found in at once. -/
def Group.firstFound : List Group :=
  [⟨"cn=birds", "birds"⟩, ⟨"cn=owls", "owls"⟩]

/-- Groups that are members of each other, in a circle. -/
def Group.circle : List (String × List Group) :=
  [("(|(member=uid=ada)(gid=ada))", firstFound),
    ("(|(member=cn=birds)(gid=birds))", [⟨"cn=fowl", "fowl"⟩, ⟨"cn=birds", "birds"⟩]),
    ("(|(member=cn=owls)(gid=owls))", [⟨"cn=birds", "birds"⟩, ⟨"cn=hunters", "hunters"⟩]),
    ("(|(member=cn=hunters)(gid=hunters))", [⟨"cn=owls", "owls"⟩])]

/-- An entry that is found under one role name, and on the way under another one. -/
def Group.renamed : List (String × List Group) :=
  [("(|(member=uid=ada)(gid=ada))", firstFound),
    ("(|(member=cn=birds)(gid=birds))", [⟨"cn=owls", "night owls"⟩]),
    ("(|(member=cn=owls)(gid=night owls))", [⟨"cn=hunters", "hunters"⟩])]

/-- The connection is the service's, and nobody is bound on it. -/
theorem Channel.ofGroups_ready (answers : List (String × List Group)) :
    (ofGroups answers).connection.environment.HasService .withGroups ∧ (ofGroups answers).Honest := by
  refine ⟨⟨?_, ?_⟩, Connection.honest_of_unbound rfl rfl⟩
  · exact Environment.get?_ofSettings_principal .withGroups 0
  · exact Environment.get?_ofSettings_credentials .withGroups 0

/-- Groups in a circle are found once each. -/
theorem circle_of_groups_found :
    Templates.compile .withGroups = .ok Handle.withGroups.templates ∧
    ∃ groups, ((rolesOf .withGroups .member).perform (.ofGroups Group.circle)).1 =
        .ok (some ("staff" :: groups.map (·.name))) ∧
      Group.BreadthFirst (Channel.ofGroups Group.circle).leadsTo Group.firstFound groups ∧
      ∀ g, g ∈ groups ↔ Group.Reachable (Channel.ofGroups Group.circle).leadsTo Group.firstFound g := by
  refine ⟨by decide +kernel, ?_⟩
  -- the two groups that were found first and the two that they lead to are closed under looking up
  have hclosed : ∀ g ∈ Group.firstFound ++ [⟨"cn=fowl", "fowl"⟩, ⟨"cn=hunters", "hunters"⟩],
      (Channel.ofGroups Group.circle).leadsTo g ⊆
          Group.firstFound ++ [⟨"cn=fowl", "fowl"⟩, ⟨"cn=hunters", "hunters"⟩] ∧
        (Channel.ofGroups Group.circle).roleSearch (nestedFilter .ofMembers g) =
          .ok ((Channel.ofGroups Group.circle).leadsTo g) := by decide +kernel
  have hreachable {g : Group} (hg : Group.Reachable (Channel.ofGroups Group.circle).leadsTo Group.firstFound g) :
      g ∈ Group.firstFound ++ [⟨"cn=fowl", "fowl"⟩, ⟨"cn=hunters", "hunters"⟩] :=
    hg.mem_of_closed (List.subset_append_left _ _) fun g hg => (hclosed g hg).1
  obtain ⟨hservice, hhonest⟩ := Channel.ofGroups_ready Group.circle
  obtain ⟨groups, hroles, hbreadth, hmem⟩ := nested_roles_breadth_first (h := .withGroups) hservice rfl hhonest
    (rfl : User.member.dn = some "uid=ada") rfl (rfl : Handle.withGroups.templates.roleSearch = some .ofMembers) rfl rfl
    (rfl : roleBase .withGroups "uid=ada" = .ok "")
    (show (Channel.ofGroups Group.circle).roleSearch (roleFilter .ofMembers "uid=ada" "ada" none) =
      .ok Group.firstFound by decide +kernel)
    fun g hg => (hclosed g (hreachable hg)).2
  refine ⟨groups, hroles, hbreadth, hmem fun f g hf hg => ?_⟩
  -- no two of them go by one name
  have hnames : ∀ f ∈ Group.firstFound ++ [⟨"cn=fowl", "fowl"⟩, ⟨"cn=hunters", "hunters"⟩],
      ∀ g ∈ Group.firstFound ++ [⟨"cn=fowl", "fowl"⟩, ⟨"cn=hunters", "hunters"⟩], f.dn = g.dn → f = g := by
    decide +kernel
  exact hnames f (hreachable hf) g (hreachable hg)

/-- The search for the hunters' group is never made: its member is known by then under another role name. -/
theorem renamed_group_not_followed :
    Templates.compile .withGroups = .ok Handle.withGroups.templates ∧
    (Channel.ofGroups Group.renamed).roleSearch (roleFilter .ofMembers "uid=ada" "ada" none) = .ok Group.firstFound ∧
    (∀ g, Group.Reachable (Channel.ofGroups Group.renamed).leadsTo Group.firstFound g →
      (Channel.ofGroups Group.renamed).roleSearch (nestedFilter .ofMembers g) =
        .ok ((Channel.ofGroups Group.renamed).leadsTo g)) ∧
    Group.Reachable (Channel.ofGroups Group.renamed).leadsTo Group.firstFound ⟨"cn=hunters", "hunters"⟩ ∧
    ((rolesOf .withGroups .member).perform (.ofGroups Group.renamed)).1 = .ok (some ["staff", "birds", "owls"]) := by
  have hclosed : ∀ g ∈ Group.firstFound ++ [⟨"cn=owls", "night owls"⟩, ⟨"cn=hunters", "hunters"⟩],
      (Channel.ofGroups Group.renamed).leadsTo g ⊆
          Group.firstFound ++ [⟨"cn=owls", "night owls"⟩, ⟨"cn=hunters", "hunters"⟩] ∧
        (Channel.ofGroups Group.renamed).roleSearch (nestedFilter .ofMembers g) =
          .ok ((Channel.ofGroups Group.renamed).leadsTo g) := by decide +kernel
  refine ⟨by decide +kernel, by decide +kernel, fun g hg => ?_, ?_, by decide +kernel⟩
  · exact (hclosed g (hg.mem_of_closed (List.subset_append_left _ _) fun g hg => (hclosed g hg).1)).2
  · -- by way of the birds, and of the owls under their other name
    have hbirds : Group.Reachable (Channel.ofGroups Group.renamed).leadsTo Group.firstFound ⟨"cn=birds", "birds"⟩ :=
      .initial (by decide)
    have howls := hbirds.next (f := ⟨"cn=owls", "night owls"⟩) (by decide +kernel)
    exact howls.next (by decide +kernel)

end DirectoryLogin

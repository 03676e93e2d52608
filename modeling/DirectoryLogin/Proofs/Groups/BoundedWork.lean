import DirectoryLogin.Proofs.Connection.Queries
import DirectoryLogin.Proofs.Groups.NestedRoles
import DirectoryLogin.Proofs.Users.SingleEntry
import Mathlib.Data.List.Dedup
/-!
# The Work of Nested Roles

The queue of nested groups takes in what it finds while it is worked off, and groups may well be members of each
other. It is worked off nevertheless, whatever the directory answers and whichever requests fail: a group goes into
the queue once, and there are no more groups than names that the directory can return.

- `Exchange.Expands`: the loop over the queue, without a bound for its steps.
- `Exchange.expands_iff`: from any groups the loop has exactly one run, which is that of the program.
- `Exchange.Expands.work`: a run has sent one query for every group that it has taken from the queue.
- `nested_roles_bounded_work`: a role lookup sends one query for the user and one for every group that it finds.
-/

namespace DirectoryLogin

/-! ## §1 New groups -/

namespace Group

variable {known found groups : List Group}

/-- The groups of an answer whose entries are not known yet. -/
def fresh (known found : List Group) : List Group :=
  found.filter fun f => !isIn known f.dn

theorem dns_fresh_subset (known found : List Group) : (fresh known found).map (·.dn) ⊆ found.map (·.dn) :=
  List.map_subset _ (List.filter_subset_self _)

/-- New groups repeat no entry. -/
theorem Distinct.append_fresh (hknown : Distinct known) (hfound : Distinct found) :
    Distinct (known ++ fresh known found) := by
  unfold Distinct at hknown hfound ⊢
  rw [List.map_append, List.nodup_append]
  refine ⟨hknown, ?_, ?_⟩
  · exact hfound.sublist (List.filter_sublist.map _)
  · rintro dn hdn _ hother rfl
    obtain ⟨f, hf, rfl⟩ := List.mem_map.mp hother
    have hnew : (!isIn known f.dn) = true := (List.mem_filter.mp hf).2
    rw [isIn_iff.mpr hdn] at hnew
    cases hnew

/-- There are no more groups in a list than different names for them. -/
theorem Distinct.length_le {names : List String} (h : Distinct groups) (hnames : groups.map (·.dn) ⊆ names) :
    groups.length ≤ names.dedup.length := by
  have hsub : groups.map (·.dn) ⊆ names.dedup := fun dn hdn => List.mem_dedup.mpr (hnames hdn)
  have hlength := (List.Nodup.subperm h hsub).length_le
  rwa [List.length_map] at hlength

end Group

namespace Exchange

open Channel

variable {s : Settings} {user : User} {base filter : String} {template : Template} {ch ch' ch₁ ch₂ : Channel}
  {names : List String} {done pending found groups : List Group} {g : Group}
  {result result₁ result₂ : Except Failure (List Group)}

/-! ## §2 The query of one search -/

/-- A search sends one query, whether it is made as the user or as the service. -/
theorem searchAs_asksOnce (s : Settings) (user : User) (base filter : String) (controls : SearchControls)
    (ch : Channel) :
    ch.AsksOnce (searchQuery ch.connection base filter controls)
      ((searchAs s user base filter controls).perform ch) := by
  unfold searchAs
  split
  · rw [boundAs_eq]
    apply AsksOnce.bracketed
    have hsearch := search_asksOnce base filter controls
      (ch.withEnvironment (ch.connection.environment.asUser user.dn user.password))
    rwa [searchQuery_asUser] at hsearch
  · exact search_asksOnce base filter controls ch

/-- What is made of the results sends nothing. -/
theorem searchGroups_asksOnce (s : Settings) (user : User) (base filter : String) (ch : Channel) :
    ch.AsksOnce (searchQuery ch.connection base filter (roleControls s))
      ((searchGroups s user base filter).perform ch) := by
  apply (searchAs_asksOnce s user base filter (roleControls s) ch).bind_silent
  intro results
  have hending : (s.checkEnding results.ending : Exchange Unit).Respects (Asks []) := by
    intro ch
    rw [Settings.perform_checkEnding]
    exact refl_of _ ch
  have hconnection : connection.Respects (Asks []) := fun ch => refl_of _ ch
  exact .bind hconnection fun c => .bind (.ofExcept _) fun groups => .bind hending fun _ => .pure groups

/-! ## §3 The loop -/

/-- The loop over the queue: `done` are the groups that have been searched for, `pending` those that have been found
since. The groups that a search finds go to the end of the queue, as far as their entries are new; the loop ends when
the queue is empty, or when a search fails. There is no bound for the number of its steps. -/
inductive Expands (s : Settings) (user : User) (base : String) (template : Template) :
    List Group → List Group → Channel → Except Failure (List Group) → Channel → Prop
  /-- Nothing is left to search for. -/
  | finished {done : List Group} {ch : Channel} : Expands s user base template done [] ch (.ok done) ch
  /-- The search for the next group fails. -/
  | failed {done pending : List Group} {g : Group} {ch ch' : Channel} {e : Failure}
      (hsearch : (searchGroups s user base (nestedFilter template g)).perform ch = (.error e, ch')) :
      Expands s user base template done (g :: pending) ch (.error e) ch'
  /-- The next group has been searched for, and the loop goes on. -/
  | searched {done pending found : List Group} {g : Group} {ch ch₁ ch' : Channel}
      {result : Except Failure (List Group)}
      (hsearch : (searchGroups s user base (nestedFilter template g)).perform ch = (.ok found, ch₁))
      (hrest : Expands s user base template (done ++ [g])
        (pending ++ Group.fresh (done ++ g :: pending) found) ch₁ result ch') :
      Expands s user base template done (g :: pending) ch result ch'

/-- A loop has no two runs. -/
theorem Expands.unique (h₁ : Expands s user base template done pending ch result₁ ch₁)
    (h₂ : Expands s user base template done pending ch result₂ ch₂) :
    result₁ = result₂ ∧ ch₁ = ch₂ := by
  -- induction on the first derivation: the search that comes next is the same in both
  induction h₁ generalizing result₂ ch₂ with
  | finished =>
    cases h₂
    exact ⟨rfl, rfl⟩
  | failed hsearch =>
    cases h₂ with
    | failed hsearch' =>
      cases hsearch.symm.trans hsearch'
      exact ⟨rfl, rfl⟩
    | searched hsearch' => cases hsearch.symm.trans hsearch'
  | searched hsearch _ ih =>
    cases h₂ with
    | failed hsearch' => cases hsearch.symm.trans hsearch'
    | searched hsearch' hrest =>
      cases hsearch.symm.trans hsearch'
      exact ih hrest

/-! ### What every step keeps -/

/-- What can be found does not depend on what has been searched for. -/
theorem namesOver_of_serves (h : Serves s ch ch') : namesOver s ch' base = namesOver s ch base := by
  simp only [namesOver, resultsOver, searchRequest, Connection.fullName, h.kind, h.namespaceName, h.world.directory]

/-- The groups of the loop are known by different names, which are among those that it can come across. -/
structure Queued (names : List String) (s : Settings) (base : String) (ch : Channel) (done pending : List Group) :
    Prop where
  distinct : Group.Distinct (done ++ pending)
  named : (done ++ pending).map (·.dn) ⊆ names
  /-- Whatever the directory can return is one of these names. -/
  findable : namesOver s ch base ⊆ names

namespace Queued

theorem length_le (h : Queued names s base ch done pending) : done.length + pending.length ≤ names.dedup.length := by
  have hlength := h.distinct.length_le h.named
  rwa [List.length_append] at hlength

/-- **A step of the loop** takes one group from the queue, and puts new groups into it. -/
theorem step (h : Queued names s base ch done (g :: pending))
    (hsearch : (searchGroups s user base (nestedFilter template g)).perform ch = (.ok found, ch₁)) :
    Queued names s base ch₁ (done ++ [g]) (pending ++ Group.fresh (done ++ g :: pending) found) := by
  obtain ⟨hdistinct, hnamed⟩ := searchGroups_ok (congrArg Prod.fst hsearch)
  have hserves : Serves s ch ch₁ := Orderly.searchGroups.serves.of_perform hsearch
  -- the groups are those from before, and the new ones behind them
  have hgroups : done ++ [g] ++ (pending ++ Group.fresh (done ++ g :: pending) found) =
      (done ++ g :: pending) ++ Group.fresh (done ++ g :: pending) found := by simp
  constructor
  case distinct =>
    rw [hgroups]
    exact h.distinct.append_fresh hdistinct
  case named =>
    rw [hgroups, List.map_append]
    apply List.append_subset.mpr
    refine ⟨h.named, ?_⟩
    calc (Group.fresh (done ++ g :: pending) found).map (·.dn)
        ⊆ found.map (·.dn) := Group.dns_fresh_subset _ _
      _ ⊆ namesOver s ch base := hnamed
      _ ⊆ names := h.findable
  case findable =>
    rw [namesOver_of_serves hserves]
    exact h.findable

end Queued

/-! ### The loop and the program -/

/-- With a step for every name, the program is a run of the loop. -/
theorem closeOver_expands (user : User) (template : Template) (bound : Nat) (h : Queued names s base ch done pending)
    (hbound : names.length ≤ bound + done.length) :
    Expands s user base template done pending ch ((closeOver s user base template bound done pending).perform ch).1
      ((closeOver s user base template bound done pending).perform ch).2 := by
  -- on the number of steps that are left: whoever is done takes a name from those that are left for the queue
  induction bound generalizing done pending ch with
  | zero =>
    cases pending with
    | nil => exact .finished
    | cons g pending =>
      have hlength := h.length_le
      have hdedup : names.dedup.length ≤ names.length := (List.dedup_sublist names).length_le
      rw [List.length_cons] at hlength
      omega
  | succ bound ih =>
    cases pending with
    | nil => exact .finished
    | cons g pending =>
      rw [closeOver]
      rcases hsearch : (searchGroups s user base (nestedFilter template g)).perform ch with ⟨e | found, ch₁⟩
      · rw [Session.perform_bind_of_error hsearch]
        exact .failed hsearch
      · rw [Session.perform_bind_of_ok hsearch]
        have hlength : names.length ≤ bound + (done ++ [g]).length := by
          rw [List.length_append, List.length_singleton]
          omega
        exact .searched hsearch (ih (h.step hsearch) hlength)

/-- **The loop stops**: from any groups it has exactly one run, and that is what the program does. -/
theorem expands_iff {initial : List Group} (hinitial : Group.Distinct initial) :
    Expands s user base template [] initial ch result ch' ↔
      (nestedGroups s user base template initial).perform ch = (result, ch') := by
  -- every group still to be looked up goes by a name that some entry has
  have hqueued : Queued (initial.map (·.dn) ++ namesOver s ch base) s base ch [] initial := {
    distinct := hinitial
    named := List.subset_append_left _ _
    findable := List.subset_append_right _ _ }
  have hextent := length_namesOver_le s ch base
  have hbound : (initial.map (·.dn) ++ namesOver s ch base).length ≤
      initial.length + ch.world.directory.extent + ([] : List Group).length := by
    rw [List.length_append, List.length_map, List.length_nil]
    omega
  -- so that the fuel is enough, and the loop expands
  have hrun := closeOver_expands user template _ hqueued hbound
  -- a derivation from the same state is the one that the loop gives
  constructor
  · intro h
    obtain ⟨rfl, rfl⟩ := h.unique hrun
    rfl
  · intro h
    have hsame : (closeOver s user base template (initial.length + ch.world.directory.extent) [] initial).perform ch =
        (result, ch') := h
    rwa [hsame] at hrun

/-! ## §4 The queries of the loop -/

/-- What the search for the groups of a group puts on the wire. -/
def nestedQuery (s : Settings) (template : Template) (base : String) (c : Connection) (g : Group) : Request :=
  searchQuery c base (nestedFilter template g) (roleControls s)

theorem nestedQuery_of_serves (h : Serves s ch ch') :
    nestedQuery s template base ch'.connection = nestedQuery s template base ch.connection :=
  funext fun g =>
    searchQuery_congr h.kind h.namespaceName h.derefAliases base (nestedFilter template g) (roleControls s)

/-- **A run of the loop** sends a query for every group that it takes from the queue, and no group comes back. If it
does not fail, it has taken all of them. -/
theorem Expands.work (h : Expands s user base template done pending ch result ch')
    (hqueued : Queued names s base ch done pending) :
    ∃ queries, ch.Asks queries ch' ∧ done.length + queries.length ≤ names.dedup.length ∧
      ∀ groups, result = .ok groups → Group.Distinct groups ∧ groups.map (·.dn) ⊆ names ∧
        ∃ more, groups = done ++ more ∧ queries = more.map (nestedQuery s template base ch.connection) := by
  induction h with
  | @finished done ch =>
    refine ⟨[], refl_of _ ch, hqueued.length_le, ?_⟩
    rintro groups ⟨⟩
    have hdistinct := hqueued.distinct
    have hnamed := hqueued.named
    rw [List.append_nil] at hdistinct hnamed
    exact ⟨hdistinct, hnamed, [], (List.append_nil done).symm, rfl⟩
  | @failed done pending g ch ch' e hsearch =>
    -- the search that failed is the last one, and the groups that are done leave room for it
    have honce := searchGroups_asksOnce s user base (nestedFilter template g) ch
    rw [hsearch] at honce
    obtain ⟨queries, hasks, hone, -⟩ := honce.asks_le
    have hlength := hqueued.length_le
    rw [List.length_cons] at hlength
    refine ⟨queries, hasks, by omega, ?_⟩
    rintro groups ⟨⟩
  | @searched done pending found g ch ch₁ ch' result hsearch hrest ih =>
    -- one search for the group in front, which is then done
    have honce := searchGroups_asksOnce s user base (nestedFilter template g) ch
    rw [hsearch] at honce
    have hserves : Serves s ch ch₁ := Orderly.searchGroups.serves.of_perform hsearch
    obtain ⟨queries, hasks, hlength, hresult⟩ := ih (hqueued.step hsearch)
    refine ⟨nestedQuery s template base ch.connection g :: queries, honce.asks_of_ok.trans hasks, ?_, ?_⟩
    · rw [List.length_append, List.length_singleton] at hlength
      rw [List.length_cons]
      omega
    · intro groups hgroups
      obtain ⟨hdistinct, hnamed, more, hmore, hqueries⟩ := hresult groups hgroups
      refine ⟨hdistinct, hnamed, g :: more, ?_, ?_⟩
      · rw [hmore, List.append_assoc, List.singleton_append]
      · rw [hqueries, nestedQuery_of_serves hserves, List.map_cons]

/-! ## §5 The roles of a user -/

/-- Where groups are nested, a role lookup is a search for the user and the loop over what it has found. -/
theorem rolesOf_nested {h : Handle} {user : User} {dn username base : String} {template : Template}
    (hdn : user.dn = some dn) (husername : user.username = some username)
    (htemplate : h.templates.roleSearch = some template) (hname : h.settings.roleName.isSome)
    (hnested : h.settings.roleNested = true) (hbase : roleBase h dn = .ok base) :
    rolesOf h user = do
      let initial ← searchGroups h.settings user base (roleFilter template dn username user.roleId)
      let groups ← nestedGroups h.settings user base template initial
      return some (user.roles ++ h.settings.commonRole.toList ++ groups.map (·.name)) := by
  obtain ⟨name, hname⟩ := Option.isSome_iff_exists.mp hname
  rw [rolesOf, hdn, husername]
  dsimp only
  rw [htemplate, hname]
  dsimp only
  rw [hbase]
  refine Session.ext fun ch => ?_
  simp only [Session.perform_bind_of_ok (Session.perform_ofExcept (.ok base) ch), hnested, if_true]

end Exchange

open Exchange

/-- **Nested roles are bounded work**, over every connection and whatever faults are due. The loop over the groups of a
user stops: from any groups it has exactly one run, and that is what the program does. When the roles are looked up,
every search is one query, and of queries there are at most one more than different names of groups that the directory
can return. If the lookup does not fail, they are exactly these: the one for the user, and then one for every group
that it has found, each entry once. -/
theorem nested_roles_bounded_work {h : Handle} {user : User} {dn username base : String} {template : Template}
    (hdn : user.dn = some dn) (husername : user.username = some username)
    (htemplate : h.templates.roleSearch = some template) (hname : h.settings.roleName.isSome)
    (hnested : h.settings.roleNested = true) (hbase : roleBase h dn = .ok base) (ch : Channel) :
    (∀ initial, Group.Distinct initial → ∀ result ch',
      Expands h.settings user base template [] initial ch result ch' ↔
        (nestedGroups h.settings user base template initial).perform ch = (result, ch')) ∧
    ∀ result ch', (rolesOf h user).perform ch = (result, ch') →
      ∃ queries, ch.Asks queries ch' ∧ queries.length ≤ 1 + (namesOver h.settings ch base).dedup.length ∧
        ∀ roles, result = .ok roles → ∃ groups,
          roles = some (user.roles ++ h.settings.commonRole.toList ++ groups.map (·.name)) ∧
          Group.Distinct groups ∧ groups.map (·.dn) ⊆ namesOver h.settings ch base ∧
          queries =
            searchQuery ch.connection base (roleFilter template dn username user.roleId) (roleControls h.settings) ::
              groups.map (nestedQuery h.settings template base ch.connection) := by
  refine ⟨fun initial hinitial result ch' => expands_iff hinitial, ?_⟩
  intro result ch' hrun
  rw [rolesOf_nested hdn husername htemplate hname hnested hbase] at hrun
  have honce := searchGroups_asksOnce h.settings user base (roleFilter template dn username user.roleId) ch
  rcases hsearch : (searchGroups h.settings user base (roleFilter template dn username user.roleId)).perform ch
    with ⟨e | initial, ch₁⟩
  · -- the search for the user fails, and nothing else is searched for
    rw [Session.perform_bind_of_error hsearch] at hrun
    cases hrun
    rw [hsearch] at honce
    obtain ⟨queries, hasks, hone, -⟩ := honce.asks_le
    refine ⟨queries, hasks, by omega, ?_⟩
    rintro roles ⟨⟩
  rw [Session.perform_bind_of_ok hsearch] at hrun
  rw [hsearch] at honce
  -- what the search for the user has found are names that the directory can return, and they are in the queue
  obtain ⟨hdistinct, hnamed⟩ := searchGroups_ok (congrArg Prod.fst hsearch)
  have hserves : Channel.Serves h.settings ch ch₁ := Orderly.searchGroups.serves.of_perform hsearch
  have hqueued : Queued (namesOver h.settings ch base) h.settings base ch₁ [] initial := {
    distinct := hdistinct
    named := hnamed
    findable := by rw [namesOver_of_serves hserves]; exact List.Subset.refl _ }
  rcases hloop : (nestedGroups h.settings user base template initial).perform ch₁ with ⟨outcome, ch₂⟩
  obtain ⟨queries, hasks, hlength, houtcome⟩ := ((expands_iff hdistinct).mpr hloop).work hqueued
  have hbound : 1 + queries.length ≤ 1 + (namesOver h.settings ch base).dedup.length := by
    rw [List.length_nil] at hlength
    omega
  cases outcome with
  | error e =>
    rw [Session.perform_bind_of_error hloop] at hrun
    cases hrun
    refine ⟨_, honce.asks_of_ok.trans hasks, by rwa [List.length_append], ?_⟩
    rintro roles ⟨⟩
  | ok groups =>
    rw [Session.perform_bind_of_ok hloop] at hrun
    cases hrun
    refine ⟨_, honce.asks_of_ok.trans hasks, by rwa [List.length_append], ?_⟩
    rintro roles ⟨⟩
    obtain ⟨hgroups, hnames, more, hmore, hqueries⟩ := houtcome groups rfl
    rw [List.nil_append] at hmore
    refine ⟨groups, rfl, hgroups, hnames, ?_⟩
    rw [hqueries, hmore, nestedQuery_of_serves hserves]
    rfl

/-- Groups that are members of each other in a circle: the user and four groups are searched for, once each. -/
theorem circle_of_groups_work :
    ∃ queries ch', (rolesOf .withGroups .member).perform (.ofGroups Group.circle) =
        (.ok (some ["staff", "birds", "owls", "fowl", "hunters"]), ch') ∧
      (Channel.ofGroups Group.circle).Asks queries ch' ∧ queries.length = 5 := by
  obtain ⟨-, hwork⟩ := nested_roles_bounded_work (h := .withGroups) (rfl : User.member.dn = some "uid=ada") rfl
    (rfl : Handle.withGroups.templates.roleSearch = some .ofMembers) rfl rfl
    (rfl : roleBase .withGroups "uid=ada" = .ok "") (Channel.ofGroups Group.circle)
  have hroles : ((rolesOf .withGroups .member).perform (.ofGroups Group.circle)).1 =
      .ok (some ["staff", "birds", "owls", "fowl", "hunters"]) := by decide +kernel
  rcases hrun : (rolesOf .withGroups .member).perform (.ofGroups Group.circle) with ⟨result, ch'⟩
  rw [hrun] at hroles
  subst hroles
  obtain ⟨queries, hasks, -, hresult⟩ := hwork _ ch' hrun
  obtain ⟨groups, hgroups, -, -, hqueries⟩ := hresult _ rfl
  refine ⟨queries, ch', rfl, hasks, ?_⟩
  -- besides its own role, the user has one role for every group
  have hnames : ["birds", "owls", "fowl", "hunters"] = groups.map (·.name) :=
    (List.cons.inj (Option.some.inj hgroups)).2
  have hlength : groups.length = 4 := by rw [← List.length_map (·.name), ← hnames]; rfl
  rw [hqueries, List.length_cons, List.length_map, hlength]

end DirectoryLogin

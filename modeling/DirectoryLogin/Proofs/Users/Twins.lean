import DirectoryLogin.Proofs.Connection.Twins
import DirectoryLogin.Realm
/-!
# Logins of Two Runs

A login over twins with either of two unknown passwords goes the same way: the same users are found, each check has the
same result, and the same roles are granted. A user that was found may carry the password that was presented, so users
of the two runs are twins too. There is one place where the runs may part: a password without bytes makes a comparison
with a stored one fail.

- `Exchange.getUser_coupled`: finding a user.
- `Password.Parts`: how the runs part.
- `Exchange.verify_coupled`: checking the password.
- `Exchange.authenticate_coupled`: the whole login.
-/

namespace DirectoryLogin

open Session (Coupled CoupledUnless EndsAlike)
open World (Public)

/-- A comparison with a stored password fails in this way for the first of two passwords: it has no bytes, and the
second one has some or lacks them for another reason. -/
def Password.Parts (p q : Password) (s : Settings) (e : Failure) : Prop :=
  s.userPassword ≠ none ∧ p.flaw? ≠ q.flaw? ∧ ∃ flaw, p.flaw? = some flaw ∧ e = unencodable flaw

/-- No search and no name brings this failure about. -/
theorem Password.Parts.directoryKind?_eq_none {p q : Password} {s : Settings} {e : Failure} (h : p.Parts q s e) :
    e.directoryKind? = none := by
  obtain ⟨-, -, flaw, -, rfl⟩ := h
  rfl

variable {p q : Password}

/-! ## §1 Users -/

/-- Two users that differ in the password at most. -/
structure User.Twins (p q : Password) (u v : User) : Prop where
  username : v.username = u.username
  dn : v.dn = u.dn
  password : Swapped (some p) (some q) u.password v.password
  roles : v.roles = u.roles
  roleId : v.roleId = u.roleId

/-- A user whose password is neither of the two. -/
theorem User.Twins.refl {u : User} (hp : u.password ≠ some p) (hq : u.password ≠ some q) : u.Twins p q u :=
  ⟨rfl, rfl, .same hp hq, rfl, rfl⟩

/-- The stored password of an entry is one of its texts. -/
theorem User.Twins.ofEntry (s : Settings) (username : Option String) (dn : String) {attributes : Attributes}
    (hp : ∀ text ∈ attributes.texts, p ≠ text) (hq : ∀ text ∈ attributes.texts, q ≠ text) :
    (User.ofEntry s username dn attributes).Twins p q (User.ofEntry s username dn attributes) := by
  have hstored {password : Password} (h : (User.ofEntry s username dn attributes).password = some password) :
      ∃ text ∈ attributes.texts, password = text := by
    obtain ⟨text, hfirst, hpassword⟩ := Option.map_eq_some_iff.mp h
    exact ⟨text, Attributes.values_subset _ _ (List.mem_of_mem_head? hfirst), hpassword.symm⟩
  refine .refl (fun h => ?_) fun h => ?_
  · obtain ⟨text, hmem, heq⟩ := hstored h
    exact hp text hmem heq
  · obtain ⟨text, hmem, heq⟩ := hstored h
    exact hq text hmem heq

/-- Keeping the presented password makes twins of users who were the same. -/
theorem User.Twins.keepPassword {u v : User} (h : u.Twins p q v) (s : Settings) :
    (Exchange.keepPassword s (some p) u).Twins p q (Exchange.keepPassword s (some q) v) := by
  unfold Exchange.keepPassword
  rw [Option.isSome_some, Option.isSome_some]
  split
  · exact ⟨h.username, h.dn, .swapped, h.roles, h.roleId⟩
  · exact h

/-- No user in either run, or twins. -/
abbrev UsersTwins (p q : Password) : Option User → Option User → Prop :=
  Option.Rel (User.Twins p q)

/-- The user that may have been read is the same in both runs. -/
theorem usersTwins_of_read (s : Settings) (username : Option String) (dn : String)
    {attributes attributes' : Option Attributes} (h : Public p q Exchange.textsRead attributes attributes') :
    UsersTwins p q (attributes.map (User.ofEntry s username dn)) (attributes'.map (User.ofEntry s username dn)) := by
  obtain ⟨rfl, hp, hq⟩ := h
  rcases attributes' with _ | attributes
  · exact .none
  · exact .some (.ofEntry s username dn hp hq)

namespace Exchange

variable {s : Settings} (hs : s.Spares p q) {h : Handle} (hh : h.settings.Spares p q)

/-! ## §2 Finding users -/

theorem checkEnding_coupled (s : Settings) (ending : Option Failure) :
    Coupled (Channel.Twins p q) Eq (s.checkEnding ending) (s.checkEnding ending) := by
  unfold Settings.checkEnding
  split
  · split
    · exact .pure rfl
    · exact .throw _
  · exact .pure rfl

theorem say_coupled (level : Level) (source : Source) (text : String) :
    Coupled (Channel.Twins p q) Eq (onWorld (World.say level source text)) (onWorld (World.say level source text)) :=
  onWorld_coupled (World.say_coupled level source text)

theorem userByDn_coupled (s : Settings) (username : String) (ids : List String) (dn : String) :
    Coupled (Channel.Twins p q) (UsersTwins p q) (userByDn s username ids dn) (userByDn s username ids dn) := by
  unfold userByDn
  split
  · exact .pure (.some (.refl nofun nofun))
  · have hnothing : Public p q textsRead none none := ⟨rfl, nofun, nofun⟩
    exact .bind (.rescue_if (read_coupled dn (some ids)) fun _ _ => .pure hnothing) fun _ _ hread =>
      .pure (usersTwins_of_read s (some username) dn hread)

include hh in
/-- The owner of an entry reads it with the presented password. -/
theorem userByPattern_coupled (username : Option String) (ids : List String) (index : Int) :
    Coupled (Channel.Twins p q) (UsersTwins p q) (userByPattern h username (some p) ids index)
      (userByPattern h username (some q) ids index) := by
  unfold userByPattern
  split
  · refine .bind_same (.ofExcept_same _) fun pattern => ?_
    split
    · exact .pure .none
    · -- read as the service, or else as the owner with either password
      have huser := userByDn_coupled (p := p) (q := q) h.settings
      exact .rescue_if (huser _ ids _) fun _ _ => boundAs_coupled hh _ .swapped (huser _ ids _)
  · exact .pure .none

theorem onlyResult_coupled (s : Settings) (username : String) {results results' : Results}
    (hresults : Public p q Results.texts results results') :
    Coupled (Channel.Twins p q)
      (Public p q fun result => textsRead (result.bind SearchResult.attributes))
      (onlyResult s username results) (onlyResult s username results') := by
  obtain rfl := hresults.same
  have hnone : Public p q (fun result => textsRead (result.bind SearchResult.attributes)) none none :=
    ⟨rfl, nofun, nofun⟩
  unfold onlyResult
  split
  · exact .bind_same (checkEnding_coupled _ _) fun _ => .pure hnone
  · rename_i result hitems
    refine .bind_same (checkEnding_coupled _ _) fun _ => .pure (hresults.of_subset ?_)
    rw [Results.texts, hitems, List.flatMap_singleton]
    exact List.Subset.refl _
  · exact .bind_same (say_coupled _ _ _) fun _ => .pure hnone

theorem userBySearch_coupled (h : Handle) (username : Option String) (ids : List String) :
    Coupled (Channel.Twins p q) (UsersTwins p q) (userBySearch h username ids) (userBySearch h username ids) := by
  unfold userBySearch
  split
  · refine .bind (search_coupled _ _ _) fun results results' hresults => ?_
    refine .bind (onlyResult_coupled _ _ hresults) fun result result' hresult => ?_
    -- both searches find the same entry, up to its password
    obtain rfl := hresult.same
    split
    · exact .pure .none
    · refine .bind connection_coupled fun c c' hc => ?_
      rw [hc.namespaceName]
      refine .bind_same (.ofExcept_same _) fun dn => .pure ?_
      exact usersTwins_of_read _ _ dn ⟨rfl, hresult.first, hresult.second⟩
  · exact .pure .none

include hh in
/-- **Finding a user** leads to twins. -/
theorem getUser_coupled (username : Option String) (index : Int) :
    Coupled (Channel.Twins p q) (UsersTwins p q) (getUser h username (some p) index)
      (getUser h username (some q) index) := by
  -- the password that is kept with the user is the one place where the two differ
  have hkeep (u v : Option User) (huv : UsersTwins p q u v) :
      UsersTwins p q (u.map (keepPassword h.settings (some p))) (v.map (keepPassword h.settings (some q))) := by
    cases huv with
    | some huser => exact .some (huser.keepPassword _)
    | none => exact .none
  unfold getUser
  dsimp only
  split
  · exact .bind (userByPattern_coupled hh _ _ _) fun u v huv => .pure (hkeep u v huv)
  · split
    · refine .bind (boundAs_coupled hh _ .swapped (userBySearch_coupled h _ _)) fun u v huv => .pure (hkeep u v huv)
    · exact .bind (userBySearch_coupled h _ _) fun u v huv => .pure (hkeep u v huv)

/-! ## §3 Checking passwords -/

include hs in
theorem verifyByBind_coupled {u v : User} (huv : u.Twins p q v) (hp : p ≠ "") (hq : q ≠ "") :
    Coupled (Channel.Twins p q) Eq (verifyByBind s u (some p)) (verifyByBind s v (some q)) := by
  have hgiven {password : Password} (h : password ≠ "") : (Value.ofPassword (some password)).isGiven = true :=
    Password.isGiven_value_iff.mpr h
  have hcheck : Coupled (Channel.Twins p q) Eq checkBound checkBound :=
    .rescue_if (.bind (read_coupled "" none) fun _ _ _ => .pure rfl) fun _ _ => .pure rfl
  rw [verifyByBind_eq, verifyByBind_eq, huv.dn, hgiven hp, hgiven hq]
  split
  · exact .pure rfl
  · -- this is where the two passwords take the place of one another
    exact bracketed_coupled hcheck (fun _ _ h => h.forCheck _ .swapped) fun _ _ _ _ h h' =>
      (h'.restore h).asService hs

/-- **Where comparing differs**: only passwords with different flaws are told apart, and the comparison fails at one of
them. -/
theorem compare_swapped {stored stored' : Password} (h : Swapped p q stored stored') :
    Matcher.plain.compare (some p) (some stored) = Matcher.plain.compare (some q) (some stored') ∨
      p.flaw? ≠ q.flaw? ∧
        ((∃ flaw, p.flaw? = some flaw ∧
            Matcher.plain.compare (some p) (some stored) = .error (Password.unencodable flaw)) ∨
          ∃ flaw, q.flaw? = some flaw ∧
            Matcher.plain.compare (some q) (some stored') = .error (Password.unencodable flaw)) := by
  simp only [Matcher.compare_plain]
  by_cases hflaw : p.flaw? = q.flaw?
  · -- a password that is stored is presented in neither run or in both, so it matches in neither or in both
    left
    cases h with
    | same hp hq => rw [hflaw, beq_eq_false_iff_ne.mpr hp.symm, beq_eq_false_iff_ne.mpr hq.symm]
    | swapped => rw [hflaw, beq_self_eq_true, beq_self_eq_true]
  · refine .inr ⟨hflaw, ?_⟩
    rcases hp : p.flaw? with _ | flaw
    · rcases hq : q.flaw? with _ | flaw
      · exact absurd (hp.trans hq.symm) hflaw
      · exact .inr ⟨flaw, rfl, rfl⟩
    · exact .inl ⟨flaw, rfl, rfl⟩

include hs in
/-- **Checking a password** has the same result, unless stored passwords are compared and the runs part. -/
theorem verify_coupled {u v : User} (huv : u.Twins p q v) (hp : p ≠ "") (hq : q ≠ "") :
    CoupledUnless (p.Parts q s) (q.Parts p s) (Channel.Twins p q) Eq (verify s .plain u (some p))
      (verify s .plain v (some q)) := by
  unfold verify
  rcases hstored : s.userPassword with _ | name
  · exact (verifyByBind_coupled hs huv hp hq).unless
  have hset : s.userPassword ≠ none := by rw [hstored]; nofun
  have hpassword := huv.password
  simp only [Option.isNone_some, verifyByAttribute]
  generalize u.password = x, v.password = y at hpassword
  -- there is no stored password in either run, or one in both
  rcases x with _ | stored
  all_goals rcases y with _ | stored'
  · exact (Coupled.pure rfl).unless
  · cases hpassword
  · cases hpassword
  intro ch ch' hch
  have hcompared : Swapped p q stored stored' := by
    cases hpassword with
    | same hp hq => exact .same (fun h => hp (congrArg some h)) fun h => hq (congrArg some h)
    | swapped => exact .swapped
  rcases compare_swapped hcompared with hsame | ⟨hflaw, ⟨flaw, hflawed, hfails⟩ | ⟨flaw, hflawed, hfails⟩⟩
  · exact .inl ⟨.of_eq (fun _ _ => rfl) hsame, hch⟩
  · exact .inr (.inl ⟨_, hfails, hset, hflaw, flaw, hflawed, rfl⟩)
  · exact .inr (.inr ⟨_, hfails, hset, hflaw.symm, flaw, hflawed, rfl⟩)

/-! ## §4 Roles -/

section Roles

variable {u v : User} (huv : u.Twins p q v)
include huv

include hs in
theorem searchAs_coupled (base filter : String) (controls : SearchControls) :
    Coupled (Channel.Twins p q) (Public p q Results.texts) (searchAs s u base filter controls)
      (searchAs s v base filter controls) := by
  unfold searchAs
  rw [huv.dn]
  split
  · exact boundAs_coupled hs _ huv.password (search_coupled _ _ _)
  · exact search_coupled _ _ _

include hs in
theorem searchGroups_coupled (base filter : String) :
    Coupled (Channel.Twins p q) Eq (searchGroups s u base filter) (searchGroups s v base filter) := by
  refine .bind (searchAs_coupled hs huv _ _ _) fun results results' hresults => ?_
  obtain rfl := hresults.same
  refine .bind connection_coupled fun c c' hc => ?_
  rw [hc.namespaceName]
  exact .bind_same (.ofExcept_same _) fun groups =>
    .bind_same (checkEnding_coupled _ _) fun _ => .pure rfl

include hs in
theorem closeOver_coupled (base : String) (template : Template) (bound : Nat) (done pending : List Group) :
    Coupled (Channel.Twins p q) Eq (closeOver s u base template bound done pending)
      (closeOver s v base template bound done pending) := by
  -- on the number of searches that are left; the groups found are the same, and so is what is still to be done
  induction bound generalizing done pending with
  | zero =>
    cases pending with
    | nil => exact .pure rfl
    | cons g rest => exact .pure rfl
  | succ bound ih =>
    cases pending with
    | nil => exact .pure rfl
    | cons g rest => exact .bind_same (searchGroups_coupled hs huv _ _) fun found => ih _ _

include hs in
theorem nestedGroups_coupled (base : String) (template : Template) (groups : List Group) :
    Coupled (Channel.Twins p q) Eq (nestedGroups s u base template groups) (nestedGroups s v base template groups) := by
  refine .bind_get fun ch ch' h => ?_
  obtain ⟨-, -, events, hworld⟩ := h.world
  rw [hworld]
  exact closeOver_coupled hs huv _ _ _ _ _

include hh in
/-- **The roles** of twins are the same. -/
theorem rolesOf_coupled : Coupled (Channel.Twins p q) Eq (rolesOf h u) (rolesOf h v) := by
  unfold rolesOf
  -- the roles are those of the same user on both sides
  rw [huv.dn, huv.username, huv.roles, huv.roleId]
  split
  · dsimp only
    split
    · refine .bind_same (.ofExcept_same _) fun base =>
        .bind_same (searchGroups_coupled hh huv _ _) fun groups => ?_
      split
      · exact .bind_same (nestedGroups_coupled hh huv _ _ _) fun _ => .pure rfl
      · exact .bind_same (.pure rfl) fun _ => .pure rfl
    · exact .pure rfl
  · exact .pure rfl

end Roles

/-! ## §5 Logins -/

/-- The same principal, or none in either run. -/
abbrev GrantsTwins : Option Grant → Option Grant → Prop :=
  Option.Rel fun g g' => g.principal = g'.principal

/-- Attempts with one pattern that ended the same way. -/
inductive PatternOutcome.Twins : PatternOutcome → PatternOutcome → Prop
  | unresolved : Twins .unresolved .unresolved
  | rejected : Twins .rejected .rejected
  | accepted {g g' : Grant} (h : g.principal = g'.principal) : Twins (.accepted g) (.accepted g')

/-- What logins with two unknown passwords do together, unless they part. -/
abbrev LoginsTogether {α : Type} (p q : Password) (s : Settings) (Q : α → α → Prop) (x y : Exchange α) : Prop :=
  CoupledUnless (p.Parts q s) (q.Parts p s) (Channel.Twins p q) Q x y

section Logins

variable (hp : p ≠ "") (hq : q ≠ "") (username : String)
include hh hp hq

theorem authenticateUser_coupled {u v : User} (huv : u.Twins p q v) :
    LoginsTogether p q h.settings GrantsTwins (authenticateUser h .plain username p u)
      (authenticateUser h .plain username q v) := by
  refine .bind_same (verify_coupled hh huv hp hq) fun verified => ?_
  split
  · have hprincipal : Coupled (Channel.Twins p q) Eq (principalOf h username u) (principalOf h username v) :=
      .bind_same (rolesOf_coupled hh huv) fun roles => .pure rfl
    exact (Coupled.bind_same hprincipal fun principal => .pure (.some rfl)).unless
  · exact (Coupled.pure .none).unless

theorem tryPattern_coupled (index : Nat) :
    LoginsTogether p q h.settings PatternOutcome.Twins (tryPattern h .plain username p index)
      (tryPattern h .plain username q index) := by
  have hreport (message : String) : Coupled (Channel.Twins p q) PatternOutcome.Twins
      (onWorld (World.say .warning .realm message) >>= fun _ => pure .unresolved)
      (onWorld (World.say .warning .realm message) >>= fun _ => pure .unresolved) :=
    .bind_same (say_coupled _ _ _) fun _ => .pure .unresolved
  -- a password without bytes is no invalid name, so the pattern is not passed over
  refine .rescue_if (.bind (getUser_coupled hh _ _).unless fun u v huv => ?_) (fun e _ => (hreport _).unless)
    (fun e he => ?_) fun e he => ?_
  rotate_left
  · rw [he.directoryKind?_eq_none]
    rfl
  · rw [he.directoryKind?_eq_none]
    rfl
  cases huv with
  | none => exact (Coupled.pure .unresolved).unless
  | some huser =>
    refine .bind (authenticateUser_coupled hh hp hq username huser) fun g g' hgrant => ?_
    cases hgrant with
    | none => exact (Coupled.pure .rejected).unless
    | some hprincipal => exact (Coupled.pure (.accepted hprincipal)).unless

theorem authenticateByPatterns_coupled (patterns : List Template) (index : Nat) :
    LoginsTogether p q h.settings GrantsTwins (authenticateByPatterns h .plain username p index patterns)
      (authenticateByPatterns h .plain username q index patterns) := by
  -- on the patterns that are left: those before have ended alike
  induction patterns generalizing index with
  | nil => exact (Coupled.pure .none).unless
  | cons _ rest ih =>
    refine .bind (tryPattern_coupled hh hp hq username index) fun outcome outcome' h => ?_
    cases h with
    | accepted hprincipal => exact (Coupled.pure (.some hprincipal)).unless
    | unresolved => exact ih (index + 1)
    | rejected =>
      dsimp only
      split
      · exact ih (index + 1)
      · exact (Coupled.pure .none).unless

/-- **A login** with either of two unknown passwords goes the same way, unless the runs part. -/
theorem authenticate_coupled :
    LoginsTogether p q h.settings GrantsTwins (authenticate h .plain username p)
      (authenticate h .plain username q) := by
  unfold authenticate
  split
  · exact authenticateByPatterns_coupled hh hp hq username _ 0
  · refine .bind (getUser_coupled hh _ _).unless fun u v huv => ?_
    cases huv with
    | none => exact (Coupled.pure .none).unless
    | some huser => exact authenticateUser_coupled hh hp hq username huser

end Logins

end Exchange

end DirectoryLogin

import DirectoryLogin.Proofs.Manager.Lifetimes
import DirectoryLogin.Proofs.Manager.Invariants
import DirectoryLogin.Proofs.Manager.Parting
import DirectoryLogin.Proofs.Realm.HistoryIndependence
/-!
# Rejected Passwords Leave no Trace

What a login answers, and what it writes to the journal, says nothing about a password that is nobody's, as long as it
has bytes to be compared. Two new realms, one of which is given one such password and the other one another, do the same
until the end, whatever faults strike on the way. A password that is not well formed is told from others where stored
passwords are compared: then the journal quotes what is wrong with it.

- `IsNobodys`: a password that neither the directory nor the service has.
- `Login.grant_together`: a login over twins.
- `rejected_passwords_alike`: the answer and the journal are the same, and where they are not, why.
- `broken_password_told`: a run in which they are not.
-/

namespace DirectoryLogin

open Session (Coupled EndsAlike Together)

variable {p q : Password}

/-! ## §1 Realms -/

/-- Two realms that compare stored passwords as they are, with twins for managers. -/
structure Realm.Twins (p q : Password) (s : Settings) (r r' : Realm) : Prop where
  plain : r.matcher = .plain
  matcher : r'.matcher = r.matcher
  manager : r.manager.Twins p q s r'.manager

/-- What the journal tells of a password after a login, unless the login was interrupted. -/
abbrev Password.TellsAfter {α : Type} (p q : Password) (s : Settings) (run : Except Failure (Option α) × Realm) :
    Prop :=
  p.Tells q s "authentication" run.1 run.2.manager.world.journal

namespace Login

variable {s : Settings} {r r' : Realm}

theorem onManager_coupled {α : Type} {Q : α → α → Prop} {x y : Managed α}
    (hx : Coupled (Manager.Twins p q s) Q x y) : Coupled (Realm.Twins p q s) Q (onManager x) (onManager y) :=
  .within hx (fun _ _ h => h.manager) fun _ _ _ _ h hmanager => ⟨h.plain, h.matcher, hmanager⟩

theorem say_coupled (level : Level) (text : String) :
    Coupled (Realm.Twins p q s) Eq (say level text) (say level text) :=
  onManager_coupled (Managed.onWorld_coupled (World.say_coupled _ _ _))

/-- Handles that are twins log users in together. -/
theorem authenticateOn_together (hs : s.Spares p q) (hp : p ≠ "") (hq : q ≠ "") (username : String) {h h' : Handle}
    (htwins : h.Twins p q s h') :
    Exchange.LoginsTogether p q s Exchange.GrantsTwins (Exchange.authenticate h .plain username p)
      (Exchange.authenticate h' .plain username q) := by
  have hsettings : h'.settings = h.settings := congrArg Snapshot.settings htwins.snapshot
  have hspares : h.settings.Spares p q := htwins.settings ▸ hs
  rw [Exchange.authenticate_congr hsettings htwins.templates, ← htwins.settings]
  exact Exchange.authenticate_coupled hspares hp hq username

/-- The message at the end of a login, and its value. -/
def conclude (username : String) (granted : Option Grant) : Login (Option Grant) := do
  match granted with
  | some g => say .info ("Authenticated " ++ username ++ " with " ++ toString g.principal.roles.length ++ " roles")
  | none => say .info ("Authentication failed for " ++ username)
  return granted

theorem grant_eq (username : Option String) {password : Password} (hpassword : password ≠ "") :
    grant username (some password) =
      match nonEmpty? username with
      | none => pure none
      | some username => get >>= fun r =>
        onManager (Managed.answer "authentication" fun h => Exchange.authenticate h r.matcher username password) >>=
          conclude username := by
  rw [grant, givenPassword?_some hpassword]
  rcases nonEmpty? username with _ | username
  · rfl
  · rfl

/-- The message of a success counts the roles of the principal, and nothing else of the grant is seen. -/
theorem conclude_coupled (username : String) {g g' : Option Grant} (h : Exchange.GrantsTwins g g') :
    Coupled (Realm.Twins p q s) Exchange.GrantsTwins (conclude username g) (conclude username g') := by
  unfold conclude
  cases h with
  | none => exact .bind_same (say_coupled _ _) fun _ => .pure .none
  | some hprincipal =>
    dsimp only
    rw [hprincipal]
    exact .bind_same (say_coupled _ _) fun _ => .pure (.some hprincipal)

/-- What was told is told after the last message too. -/
theorem tells_conclude {username : String} {x : Login (Option Grant)} (h : p.TellsAfter q s (x.perform r)) :
    p.TellsAfter q s ((x >>= conclude username).perform r) := by
  rw [Session.perform_bind]
  obtain ⟨hset, hflaws, flaw, hflaw, ⟨hresult, hmessage⟩ | ⟨e, hresult, he⟩⟩ := h
  · refine ⟨hset, hflaws, flaw, hflaw, .inl ?_⟩
    rw [← Prod.eta (x.perform r), hresult]
    exact ⟨rfl, List.mem_append_left _ hmessage⟩
  · refine ⟨hset, hflaws, flaw, hflaw, .inr ⟨e, ?_, he⟩⟩
    rw [← Prod.eta (x.perform r), hresult]

/-- **A login over twins** ends with the same principal, or with none, unless one of the passwords is told of. -/
theorem grant_together (h : r.Twins p q s r') (hr : r.manager.Rests) (hr' : r'.manager.Rests) (hp : p ≠ "")
    (hq : q ≠ "") (username : Option String) :
    Together (Realm.Twins p q s) Exchange.GrantsTwins ((grant username (some p)).perform r)
        ((grant username (some q)).perform r') ∨
      p.TellsAfter q s ((grant username (some p)).perform r) ∨
      q.TellsAfter p s ((grant username (some q)).perform r') := by
  rw [grant_eq username hp, grant_eq username hq]
  -- a name that is missing or empty lets nobody in
  rcases nonEmpty? username with _ | username
  · exact .inl ⟨.ok .none, h⟩
  simp only [Session.perform_bind_of_ok (Session.perform_get _)]
  rw [h.matcher, h.plain]
  -- the realm runs the same program on both managers
  rcases Managed.answer_together (fun _ _ => authenticateOn_together h.manager.spares hp hq username) "authentication"
    h.manager hr hr' with ⟨hresult, hstate⟩ | htells | htells
  · left
    have hgranted : Together (Realm.Twins p q s) Exchange.GrantsTwins
        ((onManager (Managed.answer "authentication" fun h => Exchange.authenticate h .plain username p)).perform r)
        ((onManager (Managed.answer "authentication" fun h => Exchange.authenticate h .plain username q)).perform r') :=
      ⟨hresult, h.plain, h.matcher, hstate⟩
    exact hgranted.bind fun _ _ hgrants => conclude_coupled username hgrants
  · exact .inr (.inl (tells_conclude htells))
  · exact .inr (.inr (tells_conclude htells))

/-- The principal of a login is all that leaves the realm. -/
theorem tells_principal {username : Option String} {password : Password}
    (h : p.TellsAfter q s ((grant username (some password)).perform r)) :
    p.TellsAfter q s ((authenticate username (some password)).perform r) := by
  rw [authenticate, Session.perform_bind]
  obtain ⟨hset, hflaws, flaw, hflaw, ⟨hresult, hmessage⟩ | ⟨e, hresult, he⟩⟩ := h
  · refine ⟨hset, hflaws, flaw, hflaw, .inl ?_⟩
    rw [← Prod.eta ((grant username (some password)).perform r), hresult]
    exact ⟨rfl, hmessage⟩
  · refine ⟨hset, hflaws, flaw, hflaw, .inr ⟨e, ?_, he⟩⟩
    rw [← Prod.eta ((grant username (some password)).perform r), hresult]

end Login

/-! ## §2 The theorem -/

/-- A password that is nobody's: there is something to it, but it is not the service's, and the directory has no such
password and no such value of an attribute. -/
structure IsNobodys (d : Directory) (s : Settings) (password : Password) : Prop extends d.Unaware password where
  notService : ∀ text, s.connectionPassword = some text → password ≠ text

theorem Realm.rests_of_create {registry : Registry} {snapshot : Snapshot} {given : Option Matcher} {w : World}
    {r : Realm} (hcreate : ((Realm.create registry snapshot given).perform w).1 = .ok r) : r.manager.Rests := by
  obtain ⟨matcher, w₀, hmatcher, hrun⟩ := Session.of_perform_bind_ok (Prod.ext hcreate rfl)
  obtain rfl : w = w₀ := congrArg Prod.snd hmatcher
  obtain ⟨m, w₁, hmanager, hrun⟩ := Session.of_perform_bind_ok hrun
  cases hrun
  have hcreated := congrArg Prod.fst hmanager
  obtain ⟨-, -, -, hfree, -⟩ := Desk.created hcreated
  exact ⟨(Desk.balanced_of_create hcreated).inOrder, hfree⟩

/-- A new realm has no connections that could differ. -/
theorem Realm.twins_of_create {registry : Registry} {snapshot : Snapshot} {given : Option Matcher} {w : World}
    {r : Realm} (hcreate : ((Realm.create registry snapshot given).perform w).1 = .ok r) (hplain : r.matcher = .plain)
    (hstandard : registry.ChoosesStandard snapshot.settings) (hp : IsNobodys w.directory snapshot.settings p)
    (hq : IsNobodys w.directory snapshot.settings q) : r.Twins p q snapshot.settings r := by
  -- there is one realm, and both passwords are unknown to it
  obtain ⟨_, chosen, _, _, hchosen, _, rfl⟩ := of_create_ok hcreate
  have hworld : World.Twins p q { w with journal := w.journal ++ chosen.notes }
      { w with journal := w.journal ++ chosen.notes } := ⟨hp.toUnaware, hq.toUnaware, w.events, rfl⟩
  exact ⟨hplain, rfl, {
    standard := hstandard.connector hchosen
    spares := fun text htext => ⟨hp.notService text htext, hq.notService text htext⟩
    settings := rfl
    active := rfl
    connector := rfl
    tls := rfl
    pool := rfl
    shared := rfl
    ready := rfl
    isLocked := rfl
    length := rfl
    handles := fun _ => .none
    world := hworld }⟩

/-- Two logins with the same value and the same journal. -/
structure Login.Alike (run run' : Except Failure (Option (Principal Value)) × Realm) : Prop where
  value : run.1 = run'.1
  journal : run.2.manager.world.journal = run'.2.manager.world.journal

/-- Logins of a new realm with two passwords that are nobody's are alike, or else one of the passwords is told of. -/
theorem Login.alike_or_tells {registry : Registry} {snapshot : Snapshot} {given : Option Matcher} {w : World}
    {r : Realm} (hcreate : ((Realm.create registry snapshot given).perform w).1 = .ok r) (hplain : r.matcher = .plain)
    (hstandard : registry.ChoosesStandard snapshot.settings) (hp : IsNobodys w.directory snapshot.settings p)
    (hq : IsNobodys w.directory snapshot.settings q) (username : Option String) :
    Alike ((authenticate username (some p)).perform r) ((authenticate username (some q)).perform r) ∨
      p.TellsAfter q snapshot.settings ((authenticate username (some p)).perform r) ∨
      q.TellsAfter p snapshot.settings ((authenticate username (some q)).perform r) := by
  have htwins := Realm.twins_of_create hcreate hplain hstandard hp hq
  have hrests := Realm.rests_of_create hcreate
  -- what is granted agrees, or one of the two runs tells
  rcases grant_together htwins hrests hrests hp.given hq.given username with htogether | htells | htells
  · left
    have hprincipal : Together (Realm.Twins p q snapshot.settings) Eq ((authenticate username (some p)).perform r)
        ((authenticate username (some q)).perform r) := by
      refine htogether.bind fun g g' hgrants => .pure ?_
      cases hgrants with
      | none => rfl
      | some hprincipal => exact congrArg some hprincipal
    obtain ⟨-, -, events, hworld⟩ := hprincipal.state.manager.world
    exact ⟨hprincipal.result.eq, by rw [hworld]⟩
  · exact .inr (.inl (tells_principal htells))
  · exact .inr (.inr (tells_principal htells))

/-- **A rejected password leaves no trace**, if there is anything to compare. Take any settings that choose connections
to the directory, a new realm for them that compares stored passwords as they are, and any world, whatever faults are
due in it. Two passwords that are nobody's are alike wherever passwords are checked by binding, and wherever both are
well formed, or flawed in the same way: a login with one of them gives the same value as a login with the other one, and
leaves the same journal. Otherwise the two logins are alike as well, unless a comparison with a stored password is made:
then the journal quotes the flaw of one of the passwords, unless its login is interrupted. -/
theorem rejected_passwords_alike {registry : Registry} {snapshot : Snapshot} {given : Option Matcher} {w : World}
    {r : Realm} (hcreate : ((Realm.create registry snapshot given).perform w).1 = .ok r) (hplain : r.matcher = .plain)
    (hstandard : registry.ChoosesStandard snapshot.settings) (hp : IsNobodys w.directory snapshot.settings p)
    (hq : IsNobodys w.directory snapshot.settings q) (username : Option String) :
    (snapshot.settings.userPassword = none ∨ p.flaw? = q.flaw? →
      ((Login.authenticate username (some p)).perform r).1 = ((Login.authenticate username (some q)).perform r).1 ∧
        ((Login.authenticate username (some p)).perform r).2.manager.world.journal =
          ((Login.authenticate username (some q)).perform r).2.manager.world.journal) ∧
    (Login.Alike ((Login.authenticate username (some p)).perform r) ((Login.authenticate username (some q)).perform r) ∨
      p.TellsAfter q snapshot.settings ((Login.authenticate username (some p)).perform r) ∨
      q.TellsAfter p snapshot.settings ((Login.authenticate username (some q)).perform r)) := by
  have hcases := Login.alike_or_tells hcreate hplain hstandard hp hq username
  refine ⟨fun hcondition => ?_, hcases⟩
  -- what is told of is compared, and differs
  have hnever {password other : Password} (hsame : snapshot.settings.userPassword = none ∨ password.flaw? = other.flaw?)
      {α : Type} {run : Except Failure (Option α) × Realm} : ¬ password.TellsAfter other snapshot.settings run := by
    rintro ⟨hset, hflaws, -⟩
    rcases hsame with hunset | hsame
    · exact hset hunset
    · exact hflaws hsame
  rcases hcases with halike | htells | htells
  · exact ⟨halike.value, halike.journal⟩
  · exact absurd htells (hnever hcondition)
  · exact absurd htells (hnever (hcondition.imp id Eq.symm))

/-! ### Two runs -/

/-- The connection breaks when the first password is checked. -/
def World.stumbling : World :=
  { World.ofService with faults := [⟨some .bind, 1, some (.client ⟨"LDAPSocketSendError", "broken pipe"⟩)⟩] }

/-- The check is made again on a new connection, and all that is ever said of either password is that it failed. The
password that the directory knows does make a difference. -/
theorem stumbling_passwords_alike :
    ∃ r, ((Realm.create {} ⟨0, .ofService 1⟩ none).perform .stumbling).1 = .ok r ∧
      (((Login.authenticate (some "ada") (some "coral")).perform r).2.manager.world.journal.map (·.text)) =
        ["Directory authentication failed, retrying on a new connection: LDAPSocketSendError: broken pipe",
          "Authentication failed for ada"] ∧
      ((Login.authenticate (some "ada") (some "coral")).perform r).1 =
        ((Login.authenticate (some "ada") (some "amber")).perform r).1 ∧
      ((Login.authenticate (some "ada") (some "coral")).perform r).2.manager.world.journal =
        ((Login.authenticate (some "ada") (some "amber")).perform r).2.manager.world.journal ∧
      ((Login.authenticate (some "ada") (some "coral")).perform r).1 ≠
        ((Login.authenticate (some "ada") (some "pearl")).perform r).1 := by
  -- the run is evaluated for one of the passwords, and the general result gives the other
  have hrun : (((Realm.create {} ⟨0, .ofService 1⟩ none).perform .stumbling).1.toOption.any fun r =>
      (r.matcher == .plain &&
        ((Login.authenticate (some "ada") (some "coral")).perform r).2.manager.world.journal.map (·.text) ==
          ["Directory authentication failed, retrying on a new connection: LDAPSocketSendError: broken pipe",
            "Authentication failed for ada"]) &&
      (((Login.authenticate (some "ada") (some "coral")).perform r).1.map Option.isSome).toOption !=
        (((Login.authenticate (some "ada") (some "pearl")).perform r).1.map Option.isSome).toOption) = true := by
    decide +kernel
  obtain ⟨r, hcreate, hrun⟩ := exists_ok_of_any hrun
  obtain ⟨hrun, hdiffers⟩ := Bool.and_eq_true_iff.mp hrun
  obtain ⟨hplain, hjournal⟩ := Bool.and_eq_true_iff.mp hrun
  have hcoral : IsNobodys World.stumbling.directory (.ofService 1) "coral" :=
    ⟨⟨by decide, by decide⟩, by decide⟩
  have hamber : IsNobodys World.stumbling.directory (.ofService 1) "amber" :=
    ⟨⟨by decide, by decide⟩, by decide⟩
  obtain ⟨hvalue, hsame⟩ :=
    (rejected_passwords_alike hcreate (eq_of_beq hplain) (.of_forall (by decide) _) hcoral hamber (some "ada")).1
      (.inr rfl)
  refine ⟨r, hcreate, eq_of_beq hjournal, hvalue, hsame, fun heq => bne_iff_ne.mp hdiffers ?_⟩
  rw [heq]

/-- Settings that compare passwords with those of the entries. -/
def Settings.byAttribute : Settings where
  connectionUrl := some "ldap://directory"
  userSearch := some "(uid=\x7b0\x7d)"
  userPassword := some "userPassword"

/-- A world in which an entry has a password. -/
def World.withAttribute : World where
  directory :=
    { answers := [("(uid=ada)", [.item (.entry "uid=ada" (some [("userPassword", .list [.text "pearl"])]))])] }

/-- A password with half a surrogate pair in it. -/
def Password.halved : Password :=
  .broken ⟨"secret".toList, 0x4FF, "word".toList.map .inl⟩

/-- What the journal says about it: which half it is, and where. -/
def Message.aboutHalved : Message where
  level := .error
  source := .realm
  text := "Directory authentication failed: 'utf-8' codec can't encode character '\\udcff' in position 6: " ++
    "surrogates not allowed"

/-- Neither of two passwords is anybody's, and one of them leaves a trace: what is wrong with it, and where. -/
theorem broken_password_told :
    ∃ r, ((Realm.create {} ⟨0, .byAttribute⟩ none).perform .withAttribute).1 = .ok r ∧ r.matcher = .plain ∧
      Registry.ChoosesStandard {} .byAttribute ∧ IsNobodys World.withAttribute.directory .byAttribute .halved ∧
      IsNobodys World.withAttribute.directory .byAttribute "coral" ∧
      ((Login.authenticate (some "ada") (some .halved)).perform r).2.manager.world.journal ≠
        ((Login.authenticate (some "ada") (some "coral")).perform r).2.manager.world.journal ∧
      ((Login.authenticate (some "ada") (some .halved)).perform r).2.manager.world.journal =
        [.aboutHalved, ⟨.info, .realm, "Authentication failed for ada"⟩] := by
  -- both runs are evaluated, and their journals differ in length
  have hrun : (((Realm.create {} ⟨0, .byAttribute⟩ none).perform .withAttribute).1.toOption.any fun r =>
      r.matcher == .plain &&
      ((Login.authenticate (some "ada") (some .halved)).perform r).2.manager.world.journal ==
        [.aboutHalved, ⟨.info, .realm, "Authentication failed for ada"⟩] &&
      ((Login.authenticate (some "ada") (some "coral")).perform r).2.manager.world.journal ==
        [⟨.info, .realm, "Authentication failed for ada"⟩]) = true := by decide +kernel
  obtain ⟨r, hcreate, hrun⟩ := exists_ok_of_any hrun
  obtain ⟨hrun, hcoral⟩ := Bool.and_eq_true_iff.mp hrun
  obtain ⟨hplain, hhalved⟩ := Bool.and_eq_true_iff.mp hrun
  refine ⟨r, hcreate, eq_of_beq hplain, .of_forall (by decide) _, ⟨⟨nofun, fun _ _ => nofun⟩, nofun⟩,
    ⟨⟨by decide, by decide⟩, nofun⟩, ?_, eq_of_beq hhalved⟩
  rw [eq_of_beq hhalved, eq_of_beq hcoral]
  exact fun heq => absurd (congrArg List.length heq) (by decide)

end DirectoryLogin

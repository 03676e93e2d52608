import DirectoryLogin.Proofs.Manager.Faultless
import DirectoryLogin.Proofs.Realm.Running
/-!
# Authentication Forgets the Past

Over a directory that does not change, and without faults, a realm answers as if it had just been built: which
connections are open, who is bound on them, and what was edited in their environments makes no difference. What
counts is the directory, the registries and the active settings.

- `Manager.Answers`: what a program may come to over the connections of a manager; there is only one answer.
- `Realm.Regular`: what every call of a realm keeps.
- `authenticate_forgets_history`: a realm after any calls authenticates like a new one.
-/

namespace DirectoryLogin

variable {α : Type}

namespace Manager

variable {m m' : Manager}

/-! ## §1 Answers -/

/-- Two managers that choose alike, for the same settings and over the same directory. -/
structure Alike (m m' : Manager) : Prop where
  registry : m'.registry = m.registry
  settings : m'.active.settings = m.active.settings
  directory : m'.world.directory = m.world.directory

theorem Stays.alike (h : Stays m m') : m.Alike m' :=
  ⟨h.registry, congrArg Snapshot.settings h.active, h.directory⟩

theorem Alike.symm (h : m.Alike m') : m'.Alike m :=
  ⟨h.registry.symm, h.settings.symm, h.directory.symm⟩

/-- How a program may end that is run over some connection for the active settings. -/
def Answers (m : Manager) (x : Handle → Exchange α) (result : Except Failure α) : Prop :=
  ∃ h : Handle, h.settings = m.active.settings ∧ Templates.compile h.settings = .ok h.templates ∧
    Connection.Answers m.world.directory m.connector m.tls m.active.settings (x h) result

variable {x : Handle → Exchange α} {a b : Except Failure α}

theorem Answers.alike (ha : m.Answers x a) (hm : m.Regular) (hm' : m'.Regular) (halike : m.Alike m') :
    m'.Answers x a := by
  obtain ⟨h, hsettings, htemplates, ha⟩ := ha
  obtain ⟨hconnector, htls⟩ := Managed.chosen_eq hm hm' halike.registry halike.settings
  refine ⟨h, hsettings.trans halike.settings.symm, htemplates, ?_⟩
  rw [halike.directory, hconnector, htls, halike.settings]
  exact ha

/-- **There is one answer**: the handle, its connection and what has happened to it make no difference. -/
theorem Answers.unique (hx : Exchange.Uniform x) (ha : m.Answers x a) (hb : m.Answers x b) : a = b := by
  obtain ⟨h, hsettings, htemplates, ha⟩ := ha
  obtain ⟨h', hsettings', htemplates', hb⟩ := hb
  have hsame : h'.settings = h.settings := hsettings'.trans hsettings.symm
  have hcompiled : h'.templates = h.templates := by
    rw [hsame, htemplates] at htemplates'
    exact (Except.ok.inj htemplates').symm
  rw [hx.congr hsame hcompiled] at hb
  have horderly := hx.orderly h
  rw [hsettings] at horderly
  exact Connection.Answers.unique horderly ha hb

theorem Answers.failsOrdinarily (hx : Exchange.Uniform x) (ha : m.Answers x a) : FailsOrdinarily a := by
  obtain ⟨h, hsettings, -, ha⟩ := ha
  have horderly := hx.orderly h
  rw [hsettings] at horderly
  exact ha.failsOrdinarily horderly

/-- The connection of a current handle is one that opening for the active settings yields. -/
theorem Regular.established (hm : m.Regular) {id : HandleId} {h : Handle} {c : Connection}
    (hid : m.handle? id = some h) (hsnapshot : h.snapshot = m.active) (hc : h.connection = some c) :
    Connection.Established m.connector m.tls m.active.settings ⟨c, m.world⟩ := by
  obtain ⟨chosen, hchosen, hestablished⟩ := (hm.handle id h hid).connection c hc
  have hsettings : h.settings = m.active.settings := congrArg Snapshot.settings hsnapshot
  rw [hsettings] at hchosen hestablished
  obtain ⟨notes, hactive⟩ := hm.chosen
  rw [hactive] at hchosen
  cases hchosen
  exact hestablished

theorem Regular.answers (hm : m.Regular) {id : HandleId} {h : Handle} {c : Connection}
    (hid : m.handle? id = some h) (hsnapshot : h.snapshot = m.active) (hc : h.connection = some c)
    (x : Handle → Exchange α) : m.Answers x ((x h).perform ⟨c, m.world⟩).1 :=
  ⟨h, congrArg Snapshot.settings hsnapshot, (hm.handle id h hid).templates,
    .opened (hm.established hid hsnapshot hc) rfl⟩

end Manager

namespace Managed

open Manager

variable {m : Manager} {x : Handle → Exchange α}

/-! ## §2 Attempts -/

/-- **An attempt gives the answer**, whether or not the connection was there before. -/
theorem attempt_run (hx : Exchange.Uniform x) (hm : m.Regular) (hunlocked : m.isLocked = false) :
    ∃ a m', (attempt x).perform m = (a, m') ∧ m'.Regular ∧ m'.isLocked = false ∧ m.Answers x a := by
  have hacquire := acquire_run hm hunlocked
  have hstays := acquire_stays m
  rw [attempt_eq, withConnection, Session.perform_bind]
  rcases hrun : acquire.perform m with ⟨result, m₁⟩
  rw [hrun] at hacquire hstays
  cases hacquire with
  | failed _ e hm₁ hunlocked₁ houtcome =>
    -- without a handle nothing is run, so any handle for the active settings stands for it
    obtain ⟨templates, htemplates⟩ := hm.compiled
    exact ⟨_, m₁, rfl, hm₁, hunlocked₁, { snapshot := m.active, pooled := false, templates := templates }, rfl,
      htemplates, .unopened houtcome⟩
  | opened _ id c pooled hm₁ hserving hc hlocked =>
    have ⟨h, hid, hsnapshot, _⟩ := hserving
    rw [connection?_of_handle hid] at hc
    have hopen := perform_onHandle_of_open hid hc x
    have hserves := (hx.orderly h).serves ⟨c, m₁.world⟩
    -- the answer is settled here; giving the handle back does not change it
    have hanswers := (hm₁.answers hid hsnapshot hc x).alike hm₁ hm hstays.alike.symm
    dsimp only
    rw [Session.perform_bind, Session.perform_onFailure, hopen]
    rcases hprogram : (x h).perform ⟨c, m₁.world⟩ with ⟨result, c', w'⟩
    rw [hprogram] at hserves hanswers
    have hm₂ := hm₁.ofServes hid hc hserves
    have hserving₂ : Serving { m₁.setConnection id (some c') with world := w' } id pooled :=
      hserving.setConnection id (some c')
    cases result with
    | ok a =>
      obtain ⟨m₃, hrelease, hm₃, hunlocked₃⟩ := release_run hm₂ hserving₂ hlocked
      refine ⟨.ok a, m₃, ?_, hm₃, hunlocked₃, hanswers⟩
      dsimp only
      rw [Session.perform_bind_of_ok hrelease]
      rfl
    | error e =>
      obtain ⟨m₃, hclose, hm₃, hunlocked₃⟩ := close_run hm₂ hserving₂ hlocked
      obtain ⟨m₄, hdrain, hm₄, hlocked₄⟩ := drainPool_run hm₃
      refine ⟨.error e, m₄, ?_, hm₄, hlocked₄.trans hunlocked₃, hanswers⟩
      simp only [if_true, Session.perform_bind_of_ok hclose, hdrain]

/-- A second attempt has the same answer as the first one. -/
theorem attemptTwice_run (description : String) (hx : Exchange.Uniform x) (hm : m.Regular)
    (hunlocked : m.isLocked = false) :
    ∃ a m', (attemptTwice description x).perform m = (a, m') ∧ m'.Regular ∧ m'.isLocked = false ∧ m.Answers x a := by
  obtain ⟨a, m₁, hrun, hm₁, hunlocked₁, ha⟩ := attempt_run hx hm hunlocked
  have hstays := attempt_stays (fun h => (hx.orderly h).serves) m
  rw [hrun] at hstays
  rw [attemptTwice, Session.perform_rescue, hrun]
  cases a with
  | ok a => exact ⟨.ok a, m₁, rfl, hm₁, hunlocked₁, ha⟩
  | error e =>
    -- the retry runs over a manager that differs from the first one as little as the failed attempt leaves it
    by_cases hretry : e.isRetryable = true
    · have hsaid := onWorld_stays (x := World.say .info .realm
        ("Directory " ++ description ++ " failed, retrying on a new connection: " ++ e.message)) (fun _ => rfl) m₁
      obtain ⟨m₂, hsay, hm₂, hlocked₂⟩ := onWorld_say_run hm₁ .info .realm
        ("Directory " ++ description ++ " failed, retrying on a new connection: " ++ e.message)
      rw [hsay] at hsaid
      obtain ⟨b, m₃, hrun', hm₃, hunlocked₃, hb⟩ := attempt_run hx hm₂ (hlocked₂.trans hunlocked₁)
      have hstays₂ : Stays m m₂ := trans_of Stays hstays hsaid
      refine ⟨b, m₃, ?_, hm₃, hunlocked₃, hb.alike hm₂ hm hstays₂.alike.symm⟩
      simp only [hretry, if_true, Session.perform_bind_of_ok hsay, hrun']
    · -- the failure is final
      refine ⟨.error e, m₁, ?_, hm₁, hunlocked₁, ha⟩
      simp only [hretry]
      rfl

/-- The value that is reported for an answer: a failure counts as none. -/
theorem answer_run {x : Handle → Exchange (Option α)} (description : String) (hx : Exchange.Uniform x)
    (hm : m.Regular) (hunlocked : m.isLocked = false) :
    ∃ a m', (answer description x).perform m = (.ok a.toOption.join, m') ∧ m'.Regular ∧ m'.isLocked = false ∧
      m.Answers x a := by
  obtain ⟨a, m₁, hrun, hm₁, hunlocked₁, ha⟩ := attemptTwice_run description hx hm hunlocked
  rw [answer, Session.perform_rescue, hrun]
  cases a with
  | ok a => exact ⟨.ok a, m₁, rfl, hm₁, hunlocked₁, ha⟩
  | error e =>
    have hordinary := ha.failsOrdinarily hx e rfl
    obtain ⟨m₂, hsay, hm₂, hlocked₂⟩ := onWorld_say_run hm₁ .error .realm
      ("Directory " ++ description ++ " failed: " ++ e.message)
    refine ⟨.error e, m₂, ?_, hm₂, hlocked₂.trans hunlocked₁, ha⟩
    simp only [hordinary, if_true, Session.perform_bind_of_ok hsay]
    rfl

end Managed

/-! ## §3 Regular realms -/

/-- A realm over this directory in whose life nothing has gone wrong, between two calls. -/
structure Realm.Regular (given : Option Matcher) (registry : Registry) (d : Directory) (r : Realm) : Prop where
  sameGiven : r.givenMatcher = given
  sameRegistry : r.manager.registry = registry
  sameDirectory : r.manager.world.directory = d
  matcher : Realm.chooseMatcher given registry r.settings = .ok r.matcher
  manager : r.manager.Regular
  unlocked : r.manager.isLocked = false

namespace Realm.Regular

variable {given : Option Matcher} {registry : Registry} {d : Directory} {r r' : Realm}

/-- A step of the manager that leaves the active snapshot alone. -/
theorem ofManager (hr : Regular given registry d r) {m : Manager} (hstays : Manager.Stays r.manager m)
    (hm : m.Regular) (hunlocked : m.isLocked = false) : Regular given registry d { r with manager := m } where
  sameGiven := hr.sameGiven
  sameRegistry := hstays.registry.trans hr.sameRegistry
  sameDirectory := hstays.directory.trans hr.sameDirectory
  matcher := by
    have hsettings : m.active.settings = r.settings := congrArg Snapshot.settings hstays.active
    rw [Realm.settings, hsettings]
    exact hr.matcher
  manager := hm
  unlocked := hunlocked

/-- Realms for the same settings have managers that choose alike, and the same matcher. -/
theorem alike (hr : Regular given registry d r) (hr' : Regular given registry d r')
    (hsettings : r'.settings = r.settings) : r.manager.Alike r'.manager :=
  ⟨hr'.sameRegistry.trans hr.sameRegistry.symm, hsettings, hr'.sameDirectory.trans hr.sameDirectory.symm⟩

theorem matcher_eq (hr : Regular given registry d r) (hr' : Regular given registry d r')
    (hsettings : r'.settings = r.settings) : r'.matcher = r.matcher := by
  have hmatcher := hr'.matcher
  rw [hsettings, hr.matcher] at hmatcher
  exact (Except.ok.inj hmatcher).symm

/-- **A new realm is regular** in a world without faults. -/
theorem of_create {snapshot : Snapshot} {w : World} (hquiet : w.faults = [])
    (hcreate : ((create registry snapshot given).perform w).1 = .ok r) : Regular given registry w.directory r := by
  obtain ⟨matcher, chosen, templates, hmatcher, hchosen, htemplates, rfl⟩ := of_create_ok hcreate
  -- there are no handles yet, so nothing is to be said about them
  have hnone (id : HandleId) (h : Handle) (hid : ([] : List Handle)[id]? = some h) : False := by
    rw [List.getElem?_nil] at hid
    cases hid
  refine ⟨rfl, rfl, rfl, hmatcher, ?_, rfl⟩
  constructor
  · exact hquiet
  · exact ⟨chosen.notes, hchosen⟩
  · exact ⟨templates, htemplates⟩
  · exact fun id h hid => (hnone id h hid).elim
  · intro id id' c c' hc
    obtain ⟨h, hid, -⟩ := Manager.of_connection?_eq_some hc
    exact (hnone id h hid).elim
  · intro pool hpool id hmem
    rw [Manager.items_of_poolFor hpool] at hmem
    cases hmem
  · rintro id (hshared | hready)
    · cases hshared
    · cases hready

/-- Settings that are active can be used again. -/
theorem exists_create (hr : Regular given registry d r) (serial : Nat) (w : World) :
    ∃ fresh, ((create registry ⟨serial, r.settings⟩ given).perform w).1 = .ok fresh ∧ fresh.settings = r.settings := by
  obtain ⟨notes, hchosen⟩ := hr.manager.chosen
  obtain ⟨templates, htemplates⟩ := hr.manager.compiled
  rw [hr.sameRegistry] at hchosen
  -- what has been chosen and compiled once is chosen and compiled again
  have hhandle : Handle.create ⟨serial, r.settings⟩ false =
      .ok { snapshot := ⟨serial, r.settings⟩, pooled := false, templates := templates } := by
    rw [Handle.create, Realm.settings, htemplates]
    rfl
  have hchosen : registry.collaborators r.settings = .ok ⟨r.manager.connector, r.manager.tls, notes⟩ := hchosen
  have hmanager := Manager.perform_create registry ⟨serial, r.settings⟩ w
  simp only [hchosen, hhandle] at hmanager
  have hmatcher : (Session.ofExcept (chooseMatcher given registry r.settings) : Session World Matcher).perform w =
      (.ok r.matcher, w) := by
    rw [hr.matcher]
    rfl
  rw [create, Session.perform_bind_of_ok hmatcher, Session.perform_bind_of_ok hmanager]
  exact ⟨_, rfl, rfl⟩

end Realm.Regular

/-! ## §4 Calls -/

/-- A realm that was regular still is. -/
def Realm.StaysRegular (r r' : Realm) : Prop :=
  ∀ given registry d, Regular given registry d r → Regular given registry d r'

instance : IsPreorder Realm Realm.StaysRegular where
  refl _ _ _ _ hr := hr
  trans _ _ _ h h' given registry d hr := h' given registry d (h given registry d hr)

namespace Login

theorem onManager_staysRegular {x : Managed α} (hstays : x.Respects Manager.Stays)
    (hx : ∀ m : Manager, m.Regular → m.isLocked = false →
      (x.perform m).2.Regular ∧ (x.perform m).2.isLocked = false) :
    (onManager x).Respects Realm.StaysRegular := by
  intro r given registry d hr
  obtain ⟨hm, hunlocked⟩ := hx r.manager hr.manager hr.unlocked
  exact hr.ofManager (hstays r.manager) hm hunlocked

theorem say_staysRegular (level : Level) (text : String) : (say level text).Respects Realm.StaysRegular := by
  refine onManager_staysRegular (Managed.onWorld_stays fun _ => rfl) fun m hm hunlocked => ?_
  obtain ⟨m', hsay, hm', hlocked⟩ := Managed.onWorld_say_run hm level .realm text
  rw [hsay]
  exact ⟨hm', hlocked.trans hunlocked⟩

theorem answer_staysRegular (description : String) {x : Handle → Exchange (Option α)} (hx : Exchange.Uniform x) :
    (onManager (Managed.answer description x)).Respects Realm.StaysRegular := by
  refine onManager_staysRegular (Managed.answer_stays fun h => (hx.orderly h).serves) fun m hm hunlocked => ?_
  obtain ⟨a, m', hrun, hm', hunlocked', -⟩ := Managed.answer_run description hx hm hunlocked
  rw [hrun]
  exact ⟨hm', hunlocked'⟩

theorem start_staysRegular : start.Respects Realm.StaysRegular := by
  refine onManager_staysRegular Managed.start_stays fun m hm hunlocked => ?_
  obtain ⟨m', hrun, hm', hunlocked'⟩ := Managed.start_run hm hunlocked
  rw [hrun]
  exact ⟨hm', hunlocked'⟩

theorem stop_staysRegular : stop.Respects Realm.StaysRegular := by
  refine onManager_staysRegular Managed.shutdown_stays fun m hm hunlocked => ?_
  obtain ⟨m', hrun, hm', hunlocked'⟩ := Managed.shutdown_run hm hunlocked
  rw [hrun]
  exact ⟨hm', hunlocked'⟩

/-- The matcher follows the settings: it is replaced if they are accepted, and kept if they are rejected. -/
theorem reconfigure_staysRegular (snapshot : Snapshot) : (reconfigure snapshot).Respects Realm.StaysRegular := by
  intro r given registry d hr
  have hkeeps := Managed.reconfigure_keeps snapshot r.manager
  have hrun := Managed.reconfigure_run hr.manager hr.unlocked snapshot
  rw [reconfigure, Session.perform_bind_of_ok (Session.perform_get r)]
  -- without a matcher for the new settings nothing happens
  rcases hmatcher : Realm.chooseMatcher r.givenMatcher r.manager.registry snapshot.settings with e | matcher
  · exact hr
  rw [Session.perform_bind_of_ok (Session.perform_ofExcept (.ok matcher) r), Session.perform_bind, onManager,
    Session.perform_within]
  rcases hreconfigure : (Managed.reconfigure snapshot).perform r.manager with ⟨result, m'⟩
  rw [hreconfigure] at hkeeps hrun
  cases hrun with
  | accepted _ id hm' hunlocked' hactive =>
    refine ⟨hr.sameGiven, hkeeps.registry.trans hr.sameRegistry, hkeeps.directory.trans hr.sameDirectory, ?_, hm',
      hunlocked'⟩
    rw [hr.sameGiven, hr.sameRegistry, ← hactive] at hmatcher
    exact hmatcher
  | rejected _ e hm' hunlocked' hactive => exact hr.ofManager ⟨hkeeps, hactive⟩ hm' hunlocked'

end Login

/-- A call of the realm. -/
def Activity.IsCall : Activity → Prop
  | .start | .stop | .authenticate .. | .getPassword .. | .getPrincipal .. | .reconfigure .. => True
  | _ => False

namespace Realm.Regular

variable {given : Option Matcher} {registry : Registry} {d : Directory} {r r' : Realm} {scene : Scene}

/-- **A call keeps a realm regular**, however it ends. -/
theorem step (hr : Regular given registry d scene.realm) {activity : Activity} (hcall : activity.IsCall) :
    Regular given registry d (scene.step activity).realm := by
  cases activity with
  | start => exact Login.start_staysRegular _ _ _ _ hr
  | stop => exact Login.stop_staysRegular _ _ _ _ hr
  | authenticate username password =>
    exact Login.authenticate_respects Login.answer_staysRegular Login.say_staysRegular username password _ _ _ _ hr
  | getPassword username => exact Login.getPassword_respects Login.answer_staysRegular username _ _ _ _ hr
  | getPrincipal username credential =>
    exact Login.getPrincipal_respects Login.answer_staysRegular username credential _ _ _ _ hr
  | reconfigure snapshot => exact Login.reconfigure_staysRegular snapshot _ _ _ _ hr
  | _ => cases hcall

theorem run (hr : Regular given registry d scene.realm) {calls : List Activity} (hcalls : ∀ call ∈ calls, call.IsCall) :
    Regular given registry d (scene.run calls).realm := by
  -- from the first call on, since the rest runs from the scene it leaves
  induction calls generalizing scene with
  | nil => exact hr
  | cons call rest ih =>
    have hfirst := hr.step (hcalls call List.mem_cons_self)
    exact ih hfirst fun other hmem => hcalls other (List.mem_cons_of_mem call hmem)

/-! ## §5 Logins -/

/-- Regular realms for the same settings answer alike. -/
theorem answer_sameValue {α : Type} (hr : Regular given registry d r) (hr' : Regular given registry d r')
    (hsettings : r'.settings = r.settings) (description : String) {x : Handle → Exchange (Option α)}
    (hx : Exchange.Uniform x) : Login.SameValue r r' (Login.onManager (Managed.answer description x)) := by
  -- both realms run one program, each over a connection of its own
  obtain ⟨a, m, hrun, hm, -, ha⟩ := Managed.answer_run description hx hr.manager hr.unlocked
  obtain ⟨b, m', hrun', hm', -, hb⟩ := Managed.answer_run description hx hr'.manager hr'.unlocked
  have ha' := ha.alike hr.manager hr'.manager (hr.alike hr' hsettings)
  obtain rfl := ha'.unique hx hb
  exact ⟨a.toOption.join, congrArg Prod.fst hrun, congrArg Prod.fst hrun'⟩

/-- **Regular realms for the same settings log in alike.** -/
theorem grant_eq (hr : Regular given registry d r) (hr' : Regular given registry d r')
    (hsettings : r'.settings = r.settings) (username : Option String) (password : Option Password) :
    ∃ granted, ((Login.grant username password).perform r).1 = .ok granted ∧
      ((Login.grant username password).perform r').1 = .ok granted :=
  Login.grant_sameValue (hr.answer_sameValue hr' hsettings) (hr.matcher_eq hr' hsettings) username password

end Realm.Regular

/-- **Authentication forgets the past.** Take a realm in a world without faults, whatever its settings, and let any
calls of it go by: starts and stops, logins, look-ups, also under delegated credentials, and new settings, accepted or
rejected. Then a realm can be built anew for the settings that are active by then, in any world with the same directory
and without faults, and whoever asks it to authenticate gets the same value as from the old one. -/
theorem authenticate_forgets_history {registry : Registry} {snapshot : Snapshot} {given : Option Matcher} {w : World}
    {r : Realm} (hcreate : ((Realm.create registry snapshot given).perform w).1 = .ok r) (hquiet : w.faults = [])
    {calls : List Activity} (hcalls : ∀ call ∈ calls, call.IsCall) {past : Realm}
    (hpast : past = (Scene.run { realm := r } calls).realm) (serial : Nat) (w' : World) (hquiet' : w'.faults = [])
    (hdirectory : w'.directory = w.directory) (username : Option String) (password : Option Password) :
    ∃ fresh, ((Realm.create registry ⟨serial, past.settings⟩ given).perform w').1 = .ok fresh ∧
      ∃ value, ((Login.authenticate username password).perform past).1 = .ok value ∧
        ((Login.authenticate username password).perform fresh).1 = .ok value := by
  -- the realm is regular after its calls, and the fresh one is so from the start
  have hregular : Realm.Regular given registry w.directory past := by
    subst hpast
    exact (Realm.Regular.of_create hquiet hcreate).run hcalls
  obtain ⟨fresh, hfresh, hsettings⟩ := hregular.exists_create serial w'
  have hregular' := Realm.Regular.of_create hquiet' hfresh
  rw [hdirectory] at hregular'
  -- two regular realms of the same settings grant the same
  obtain ⟨granted, hgrant, hgrant'⟩ := hregular.grant_eq hregular' hsettings username password
  refine ⟨fresh, hfresh, granted.map (·.principal), ?_, ?_⟩
  · rw [Login.authenticate, Session.perform_bind_of_ok (Prod.ext hgrant rfl)]
    rfl
  · rw [Login.authenticate, Session.perform_bind_of_ok (Prod.ext hgrant' rfl)]
    rfl

/-! ### A past -/

/-- Settings of a service, with so many connections. -/
def Settings.ofService (connections : Int) : Settings where
  connectionUrl := some "ldap://directory"
  connectionName := some "cn=service"
  connectionPassword := some "spruce"
  connectionPoolSize := connections
  userPattern := some "uid={0}"

/-- A world that knows the service and one of its users. -/
def World.ofService : World where
  directory := { passwords := [("cn=service", "spruce"), ("uid=ada", "pearl")] }

/-- Logins with a right and a wrong password, a delegated look-up, settings that are rejected, and a pool. -/
def Activity.eventful : List Activity :=
  [.start, .authenticate (some "ada") (some "pearl"), .authenticate (some "ada") (some "coral"),
    .getPrincipal (some "ada") (.text "ticket"), .reconfigure ⟨1, { userPattern := some "uid=\x7b" }⟩,
    .reconfigure ⟨2, .ofService 3⟩, .authenticate (some "ada") (some "amber")]

/-- After all this the user is logged in as by a new realm. -/
theorem eventful_past_forgotten :
    ∃ r, ((Realm.create {} ⟨0, .ofService 1⟩ none).perform .ofService).1 = .ok r ∧
      (Scene.run { realm := r } Activity.eventful).realm.settings = .ofService 3 ∧
      ∃ fresh, ((Realm.create {} ⟨0, .ofService 3⟩ none).perform .ofService).1 = .ok fresh ∧
        ∃ p, p.username = "ada" ∧
          ((Login.authenticate (some "ada") (some "pearl")).perform
            (Scene.run { realm := r } Activity.eventful).realm).1 = .ok (some p) ∧
          ((Login.authenticate (some "ada") (some "pearl")).perform fresh).1 = .ok (some p) := by
  have hrun : (((Realm.create {} ⟨0, .ofService 1⟩ none).perform .ofService).1.toOption.any fun r =>
      let past := (Scene.run { realm := r } Activity.eventful).realm
      past.settings == .ofService 3 &&
        ((Login.authenticate (some "ada") (some "pearl")).perform past).1.toOption.any fun value =>
          value.any (·.username == "ada")) = true := by decide +kernel
  obtain ⟨r, hcreate, hrun⟩ := exists_ok_of_any hrun
  obtain ⟨hsettings, hlogin⟩ := Bool.and_eq_true_iff.mp hrun
  have hsettings := eq_of_beq hsettings
  obtain ⟨value, hvalue, hlogin⟩ := exists_ok_of_any hlogin
  obtain ⟨p, rfl, hname⟩ := (Option.any_eq_true _ _).mp hlogin
  -- all that has happened are calls of the realm
  have hcalls : ∀ call ∈ Activity.eventful, call.IsCall := by
    simp [Activity.eventful, Activity.IsCall]
  obtain ⟨fresh, hfresh, value, hpast, hsame⟩ := authenticate_forgets_history hcreate rfl hcalls rfl 0 .ofService rfl
    rfl (some "ada") (some "pearl")
  rw [hsettings] at hfresh
  rw [hvalue] at hpast
  cases hpast
  exact ⟨r, hcreate, hsettings, fresh, hfresh, p, eq_of_beq hname, hvalue, hsame⟩

end DirectoryLogin

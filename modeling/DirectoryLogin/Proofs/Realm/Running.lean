import DirectoryLogin.Proofs.Manager.Keeping
import DirectoryLogin.Proofs.Programs
/-!
# Runs of a Realm

A run is a list of activities: calls of the realm, calls of its manager, uses of a single handle, blocks that act as a
user, and changes outside. Every activity may fail; the run goes on from the state that the failure has left.

- `Scene.Sound`: every connection is the service's, but for the handles with an open block.
- `run_sound`: every run from a new realm is sound.
-/

namespace DirectoryLogin

namespace Managed

open Manager

variable {α : Type}

/-! ## §1 Programs on a handle -/

/-- Run a program on the connection of a handle. -/
def onHandle (id : HandleId) (x : Handle → Exchange α) : Managed α := do
  let some h := (← get).handle? id
    | throw (.defect .missingAttribute "'NoneType' object has no attribute 'settings'")
  onConnection id (x h)

theorem perform_onHandle_of_some {m : Manager} {id : HandleId} {h : Handle} (hid : m.handle? id = some h)
    (x : Handle → Exchange α) : (onHandle id x).perform m = (onConnection id (x h)).perform m := by
  rw [onHandle, Session.perform_bind_of_ok (Session.perform_get m), hid]

theorem perform_onHandle_of_none {m : Manager} {id : HandleId} (hid : m.handle? id = none) (x : Handle → Exchange α) :
    (onHandle id x).perform m =
      (.error (.defect .missingAttribute "'NoneType' object has no attribute 'settings'"), m) := by
  rw [onHandle, Session.perform_bind_of_ok (Session.perform_get m), hid]
  rfl

/-- A program that serves every handle it is run on. -/
theorem onHandle_stays {id : HandleId} {x : Handle → Exchange α}
    (hx : ∀ h, (x h).Respects (Channel.Serves h.settings)) : (onHandle id x).Respects Stays := by
  intro m
  rcases hid : m.handle? id with _ | h
  · rw [perform_onHandle_of_none hid]
    exact refl_of _ m
  · rw [perform_onHandle_of_some hid]
    refine onConnection_stays fun h' hid' => ?_
    rw [hid] at hid'
    cases hid'
    exact hx h

theorem perform_onHandle_of_closed {m : Manager} {id : HandleId} (hclosed : m.connection? id = none)
    (x : Handle → Exchange α) : ∃ e, (onHandle id x).perform m = (.error e, m) := by
  rcases hid : m.handle? id with _ | h
  · exact ⟨_, perform_onHandle_of_none hid x⟩
  · rw [perform_onHandle_of_some hid, perform_onConnection, hclosed]
    exact ⟨_, rfl⟩

theorem perform_onHandle_of_open {m : Manager} {id : HandleId} {h : Handle} {c : Connection}
    (hid : m.handle? id = some h) (hc : h.connection = some c) (x : Handle → Exchange α) :
    (onHandle id x).perform m =
      (((x h).perform ⟨c, m.world⟩).1,
        { m.setConnection id (some ((x h).perform ⟨c, m.world⟩).2.connection) with
          world := ((x h).perform ⟨c, m.world⟩).2.world }) := by
  have hopen : m.connection? id = some c := by rw [Manager.connection?, hid, Option.bind_some, hc]
  rw [perform_onHandle_of_some hid, perform_onConnection, hopen]

theorem attempt_eq (x : Handle → Exchange α) : attempt x = withConnection fun id => onHandle id x := rfl

theorem attempt_stays {x : Handle → Exchange α} (hx : ∀ h, (x h).Respects (Channel.Serves h.settings)) :
    (attempt x).Respects Stays :=
  withConnection_stays fun _ => onHandle_stays hx

theorem attemptTwice_stays {description : String} {x : Handle → Exchange α}
    (hx : ∀ h, (x h).Respects (Channel.Serves h.settings)) : (attemptTwice description x).Respects Stays :=
  .rescue_if (attempt_stays hx) fun _ _ => .bind (onWorld_stays fun _ => rfl) fun _ => attempt_stays hx

theorem answer_stays {description : String} {x : Handle → Exchange (Option α)}
    (hx : ∀ h, (x h).Respects (Channel.Serves h.settings)) : (answer description x).Respects Stays :=
  .rescue_if (attemptTwice_stays hx) fun _ _ => .bind (onWorld_stays fun _ => rfl) fun _ => .pure _

/-- A value of a step came from a current handle with an open connection. -/
theorem attempt_ok {x : Handle → Exchange α} {m m' : Manager} {a : α} (hcurrent : m.PoolCurrent)
    (h : (attempt x).perform m = (.ok a, m')) :
    ∃ m₁ id handle c ch, Stays m m₁ ∧ m₁.handle? id = some handle ∧ handle.snapshot = m.active ∧
      handle.connection = some c ∧ (x handle).perform ⟨c, m₁.world⟩ = (.ok a, ch) := by
  rw [attempt_eq] at h
  -- a block that succeeds has acquired, run and released
  obtain ⟨id, m₁, hacquire, h⟩ := Session.of_perform_bind_ok h
  obtain ⟨b, m₂, hrun, h⟩ := Session.of_perform_bind_ok h
  obtain ⟨_, m₃, -, hreturn⟩ := Session.of_perform_bind_ok h
  cases hreturn
  have hstays := acquire_stays m
  rw [hacquire] at hstays
  obtain ⟨handle, c, hid, hsnapshot, hc⟩ := acquire_ok hcurrent hacquire
  have hrun := Session.of_perform_onFailure_ok hrun
  rw [perform_onHandle_of_open hid hc] at hrun
  have hvalue : ((x handle).perform ⟨c, m₁.world⟩).1 = .ok a := congrArg Prod.fst hrun
  exact ⟨m₁, id, handle, c, _, hstays, hid, hsnapshot, hc, Prod.ext hvalue rfl⟩

/-- The same with a retry. What the first attempt left behind has moved nothing but connections. -/
theorem attemptTwice_ok {description : String} {x : Handle → Exchange α} {m m' : Manager} {a : α}
    (hx : ∀ h, (x h).Respects (Channel.Serves h.settings)) (hcurrent : m.PoolCurrent)
    (h : (attemptTwice description x).perform m = (.ok a, m')) :
    ∃ m₁ id handle c ch, Stays m m₁ ∧ m₁.handle? id = some handle ∧ handle.snapshot = m.active ∧
      handle.connection = some c ∧ (x handle).perform ⟨c, m₁.world⟩ = (.ok a, ch) := by
  rcases Session.of_perform_rescue_if h with ⟨hfirst, -⟩ | ⟨e, m₁, hfirst, -, hretry⟩
  · exact attempt_ok hcurrent hfirst
  · -- the value is that of the second attempt
    obtain ⟨_, m₂, hsay, hsecond⟩ := Session.of_perform_bind_ok hretry
    have hstays := attempt_stays hx m
    rw [hfirst] at hstays
    have hstays' : Stays m m₂ := by
      cases hsay
      refine trans_of Stays hstays ?_
      exact .ofFrame rfl rfl rfl rfl rfl
    obtain ⟨m₃, id, handle, c, ch, hstays₃, hid, hsnapshot, hc, hrun⟩ :=
      attempt_ok (hstays'.poolCurrent hcurrent) hsecond
    exact ⟨m₃, id, handle, c, ch, trans_of Stays hstays' hstays₃, hid, hsnapshot.trans hstays'.active, hc, hrun⟩

/-- A value in an answer is the value of one of the two attempts. -/
theorem answer_ok {description : String} {x : Handle → Exchange (Option α)} {m m' : Manager} {a : α}
    (hx : ∀ h, (x h).Respects (Channel.Serves h.settings)) (hcurrent : m.PoolCurrent)
    (h : (answer description x).perform m = (.ok (some a), m')) :
    ∃ m₁ id handle c ch, Stays m m₁ ∧ m₁.handle? id = some handle ∧ handle.snapshot = m.active ∧
      handle.connection = some c ∧ (x handle).perform ⟨c, m₁.world⟩ = (.ok (some a), ch) := by
  rcases Session.of_perform_rescue_if h with ⟨hrun, -⟩ | ⟨_, _, -, -, hreport⟩
  · exact attemptTwice_ok hx hcurrent hrun
  · -- a failure is reported, and there is no value
    obtain ⟨_, _, _, hreturn⟩ := Session.of_perform_bind_ok hreport
    cases hreturn

end Managed

/-! ## §2 Calls of the realm -/

/-- A value that passes a test was given. -/
theorem exists_ok_of_any {α : Type} {x : Except Failure α} {p : α → Bool} (h : x.toOption.any p = true) :
    ∃ a, x = .ok a ∧ p a = true := by
  rcases x with e | a
  · cases h
  · exact ⟨a, rfl, h⟩

/-- A new realm has a new manager. -/
theorem Realm.of_create_ok {registry : Registry} {snapshot : Snapshot} {given : Option Matcher} {w : World}
    {r : Realm} (h : ((create registry snapshot given).perform w).1 = .ok r) :
    ∃ (matcher : Matcher) (chosen : Registry.Collaborators) (templates : Templates),
      chooseMatcher given registry snapshot.settings = .ok matcher ∧
      registry.collaborators snapshot.settings = .ok chosen ∧
      Templates.compile snapshot.settings = .ok templates ∧
      r =
        { givenMatcher := given, matcher := matcher,
          manager :=
            { registry := registry, active := snapshot, connector := chosen.connector, tls := chosen.tls,
              pool := Manager.poolFor snapshot.settings,
              world := { w with journal := w.journal ++ chosen.notes } } } := by
  rcases hrun : (create registry snapshot given).perform w with ⟨result, w'⟩
  rw [hrun] at h
  dsimp only at h
  subst h
  -- the matcher is chosen first, then the collaborators, and the templates are compiled last
  obtain ⟨matcher, w₀, hmatcher, hrun⟩ := Session.of_perform_bind_ok hrun
  obtain rfl : w = w₀ := congrArg Prod.snd hmatcher
  obtain ⟨manager, w₁, hmanager, hrun⟩ := Session.of_perform_bind_ok hrun
  cases hrun
  rw [Manager.perform_create] at hmanager
  rcases hchosen : registry.collaborators snapshot.settings with e | chosen
  · simp only [hchosen] at hmanager
    cases hmanager
  rcases hhandle : Handle.create snapshot false with e | handle
  · simp only [hchosen, hhandle] at hmanager
    cases hmanager
  · simp only [hchosen, hhandle] at hmanager
    cases hmanager
    exact ⟨matcher, chosen, handle.templates, congrArg Prod.fst hmatcher, rfl, (Handle.of_create_ok hhandle).2.2.1, rfl⟩

/-- The order of managers, seen from the realm. -/
def Realm.Keeps (r r' : Realm) : Prop :=
  r.manager.Keeps r'.manager

instance : IsPreorder Realm Realm.Keeps where
  refl r := refl_of Manager.Keeps r.manager
  trans _ _ _ h g := trans_of Manager.Keeps h g

namespace Login

variable {α : Type}

/-! ### Operations that ask the directory -/

section Asking

variable {R : Realm → Realm → Prop} [IsPreorder Realm R]
  (hanswer : ∀ {α : Type} (description : String) {x : Handle → Exchange (Option α)}, Exchange.Uniform x →
    (onManager (Managed.answer description x)).Respects R)
  (hsay : ∀ level text, (say level text).Respects R)
include hanswer

include hsay in
theorem grant_respects (username : Option String) (password : Option Password) :
    (grant username password).Respects R := by
  unfold grant
  split
  · refine .bind_get fun r => ?_
    refine Session.Respects.bind (hanswer _ (Exchange.uniform_authenticate _ _ _)) (fun granted => ?_) r
    split
    · exact .bind (hsay _ _) fun _ => .pure _
    · exact .bind (hsay _ _) fun _ => .pure _
  · exact .pure _

include hsay in
/-- Logging in respects whatever an answer and a message respect. -/
theorem authenticate_respects (username : Option String) (password : Option Password) :
    (authenticate username password).Respects R :=
  .bind (grant_respects hanswer hsay username password) fun _ => .pure _

theorem getPassword_respects (username : Option String) : (getPassword username).Respects R := by
  refine .bind_get fun r => ?_
  split
  · exact refl_of _ r
  · exact hanswer _ (Exchange.uniform_storedPassword username) r

theorem getPrincipal_respects (username : Option String) (credential : Value) :
    (getPrincipal username credential).Respects R := by
  unfold getPrincipal
  split
  · exact hanswer _ (Exchange.uniform_knownPrincipal _ credential)
  · exact .pure _

end Asking

/-- New settings respect whatever they respect in the manager, if the matcher does not matter for it. -/
theorem reconfigure_respects {R : Realm → Realm → Prop} [IsPreorder Realm R] {snapshot : Snapshot}
    (hmanager : (onManager (Managed.reconfigure snapshot)).Respects R)
    (hmatcher : ∀ r matcher, R r { r with matcher := matcher }) : (reconfigure snapshot).Respects R := by
  refine .bind_get fun r => ?_
  refine Session.Respects.bind (.ofExcept _) (fun matcher => ?_) r
  exact .bind hmanager fun id => .bind (.modify fun r => hmatcher r matcher) fun _ => .pure id

/-! ### One value on two realms -/

/-- A step that has the same value on both realms. -/
def SameValue (r r' : Realm) (x : Login α) : Prop :=
  ∃ value, (x.perform r).1 = .ok value ∧ (x.perform r').1 = .ok value

section Alike

variable {r r' : Realm}
  (hanswer : ∀ {α : Type} (description : String) {x : Handle → Exchange (Option α)}, Exchange.Uniform x →
    SameValue r r' (onManager (Managed.answer description x)))
include hanswer

theorem grant_sameValue (hmatcher : r'.matcher = r.matcher) (username : Option String) (password : Option Password) :
    SameValue r r' (grant username password) := by
  unfold grant
  split
  · rename_i name text _ _
    obtain ⟨granted, hvalue, hvalue'⟩ := hanswer "authentication" (Exchange.uniform_authenticate r.matcher name text)
    refine ⟨granted, ?_, ?_⟩
    -- what is written about the login does not change its value
    · rw [Session.perform_bind_of_ok (Session.perform_get r), Session.perform_bind_of_ok (Prod.ext hvalue rfl)]
      cases granted with
      | none => rfl
      | some g => rfl
    · rw [Session.perform_bind_of_ok (Session.perform_get r'), hmatcher,
        Session.perform_bind_of_ok (Prod.ext hvalue' rfl)]
      cases granted with
      | none => rfl
      | some g => rfl
  · exact ⟨none, rfl, rfl⟩

theorem authenticate_sameValue (hmatcher : r'.matcher = r.matcher) (username : Option String)
    (password : Option Password) : SameValue r r' (authenticate username password) := by
  obtain ⟨granted, hvalue, hvalue'⟩ := grant_sameValue hanswer hmatcher username password
  refine ⟨granted.map (·.principal), ?_, ?_⟩
  · rw [authenticate, Session.perform_bind_of_ok (Prod.ext hvalue rfl)]
    rfl
  · rw [authenticate, Session.perform_bind_of_ok (Prod.ext hvalue' rfl)]
    rfl

theorem getPassword_sameValue (hsettings : r'.settings = r.settings) (username : Option String) :
    SameValue r r' (getPassword username) := by
  have hstored := hanswer "password lookup" (Exchange.uniform_storedPassword username)
  unfold getPassword SameValue
  rw [Session.perform_bind_of_ok (Session.perform_get r), Session.perform_bind_of_ok (Session.perform_get r'),
    hsettings]
  split
  · exact ⟨none, rfl, rfl⟩
  · exact hstored

theorem getPrincipal_sameValue (username : Option String) (credential : Value) :
    SameValue r r' (getPrincipal username credential) := by
  unfold getPrincipal
  split
  · exact hanswer _ (Exchange.uniform_knownPrincipal _ _)
  · exact ⟨none, rfl, rfl⟩

end Alike

/-! ### What the operations keep -/

theorem onManager_keeps {x : Managed α} (hx : x.Respects Manager.Keeps) : (onManager x).Respects Realm.Keeps :=
  fun r => hx r.manager

theorem onManager_keeps_of_stays {x : Managed α} (hx : x.Respects Manager.Stays) :
    (onManager x).Respects Realm.Keeps :=
  fun r => (hx r.manager).toKeeps

theorem answer_keeps (description : String) {x : Handle → Exchange (Option α)} (hx : Exchange.Uniform x) :
    (onManager (Managed.answer description x)).Respects Realm.Keeps :=
  onManager_keeps_of_stays (Managed.answer_stays fun h => (hx.orderly h).serves)

theorem say_keeps (level : Level) (text : String) : (say level text).Respects Realm.Keeps :=
  onManager_keeps_of_stays (Managed.onWorld_stays fun _ => rfl)

theorem authenticate_keeps (username : Option String) (password : Option Password) :
    (authenticate username password).Respects Realm.Keeps :=
  authenticate_respects answer_keeps say_keeps username password

theorem getPassword_keeps (username : Option String) : (getPassword username).Respects Realm.Keeps :=
  getPassword_respects answer_keeps username

theorem getPrincipal_keeps (username : Option String) (credential : Value) :
    (getPrincipal username credential).Respects Realm.Keeps :=
  getPrincipal_respects answer_keeps username credential

theorem reconfigure_keeps (snapshot : Snapshot) : (reconfigure snapshot).Respects Realm.Keeps :=
  reconfigure_respects (onManager_keeps (Managed.reconfigure_keeps snapshot)) fun r _ =>
    refl_of Manager.Keeps r.manager

theorem start_keeps : start.Respects Realm.Keeps :=
  onManager_keeps_of_stays Managed.start_stays

theorem stop_keeps : stop.Respects Realm.Keeps :=
  onManager_keeps_of_stays Managed.shutdown_stays

end Login

/-! ## §3 Activities -/

/-- Something that happens to a realm. -/
inductive Activity where
  /-- A call of the realm: open the first connection. -/
  | start
  /-- A call of the realm: close all connections. -/
  | stop
  /-- A call of the realm: authenticate a user. -/
  | authenticate (username : Option String) (password : Option Password)
  /-- A call of the realm: the stored password of a user. -/
  | getPassword (username : Option String)
  /-- A call of the realm: the principal of a user, possibly under a delegated credential. -/
  | getPrincipal (username : Option String) (credential : Value)
  /-- A call of the realm: new settings. -/
  | reconfigure (snapshot : Snapshot)
  /-- A call of the manager: get a handle. -/
  | acquire
  /-- A call of the manager: give a handle back after a success. -/
  | release (id : HandleId)
  /-- A call of the manager: give a handle back after a failure. -/
  | close (id : HandleId)
  /-- A call of the manager: close what is idle. -/
  | drainPool
  /-- A call of the manager: open the connection of a handle. -/
  | openHandle (id : HandleId)
  /-- A use of a handle: check a password. -/
  | verify (id : HandleId) (user : User) (password : Option Password)
  /-- A use of a handle: look up a user. -/
  | getUser (id : HandleId) (username : Option String) (password : Option Password) (index : Int)
  /-- A use of a handle: look up a user without a password. -/
  | findUser (id : HandleId) (username : Option String)
  /-- A use of a handle: find roles. -/
  | rolesOf (id : HandleId) (user : User)
  /-- A use of a handle: search. -/
  | search (id : HandleId) (base filter : String) (controls : SearchControls)
  /-- A use of a handle: read an entry. -/
  | read (id : HandleId) (dn : String) (names : Option (List String))
  /-- A block that acts as a user begins. -/
  | enter (id : HandleId) (name : Option String) (password : Option Password)
  /-- A block that acts as a user ends. -/
  | leave (id : HandleId)
  /-- The world changes: the directory, the faults that are due, wires of others. -/
  | outside (w : World)

/-- A realm, and the handles on which blocks are open, one entry for each block. -/
structure Scene where
  realm : Realm
  /-- The handles with open blocks. -/
  blocks : List HandleId := []

namespace Scene

variable {α : Type}

/-- The scene after a call, however the call ends. -/
def call (scene : Scene) (x : Login α) : Scene :=
  { scene with realm := (x.perform scene.realm).2 }

/-- The scene after a call of the manager. -/
def manage (scene : Scene) (x : Managed α) : Scene :=
  scene.call (Login.onManager x)

/-- The scene after a block has begun. It does not begin on a handle that is closed. -/
def enter (scene : Scene) (id : HandleId) (name : Option String) (password : Option Password) : Scene :=
  let assume := Managed.onHandle id fun _ => Exchange.assumeUser name password
  match ((Login.onManager assume).perform scene.realm).1 with
  | .ok _ => { scene.manage assume with blocks := id :: scene.blocks }
  | .error _ => scene.manage assume

/-- The scene after a block has ended. -/
def leave (scene : Scene) (id : HandleId) : Scene :=
  { scene.manage (Managed.onHandle id fun h => Exchange.resumeService h.settings) with
    blocks := scene.blocks.erase id }

/-- The scene after an activity. -/
def step (scene : Scene) : Activity → Scene
  | .start => scene.call Login.start
  | .stop => scene.call Login.stop
  | .authenticate username password => scene.call (Login.authenticate username password)
  | .getPassword username => scene.call (Login.getPassword username)
  | .getPrincipal username credential => scene.call (Login.getPrincipal username credential)
  | .reconfigure snapshot => scene.call (Login.reconfigure snapshot)
  | .acquire => scene.manage Managed.acquire
  | .release id => scene.manage (Managed.release id)
  | .close id => scene.manage (Managed.close id)
  | .drainPool => scene.manage Managed.drainPool
  | .openHandle id => scene.manage (Managed.openHandle id)
  | .verify id user password =>
    scene.manage (Managed.onHandle id fun h => Exchange.verify h.settings scene.realm.matcher user password)
  | .getUser id username password index =>
    scene.manage (Managed.onHandle id fun h => Exchange.getUser h username password index)
  | .findUser id username => scene.manage (Managed.onHandle id fun h => Exchange.findUser h username)
  | .rolesOf id user => scene.manage (Managed.onHandle id fun h => Exchange.rolesOf h user)
  | .search id base filter controls =>
    scene.manage (Managed.onHandle id fun _ => Exchange.search base filter controls)
  | .read id dn names => scene.manage (Managed.onHandle id fun _ => Exchange.read dn names)
  | .enter id name password => scene.enter id name password
  | .leave id => scene.leave id
  | .outside w => { scene with realm.manager.world := w }

/-- The scene after a run. -/
def run (scene : Scene) (activities : List Activity) : Scene :=
  activities.foldl step scene

end Scene

end DirectoryLogin

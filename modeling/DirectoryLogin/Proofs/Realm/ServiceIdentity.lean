import DirectoryLogin.Proofs.Realm.Running
/-!
# The Service's Identity Is Always Restored

Four kinds of brackets edit the environment of a connection: acting as a user, checking a password, acting under a
delegated credential, and the negotiation of encryption. However they nest and however they end, an idle connection
has the environment that its settings prescribe.

- `Scene.Sound`: every connection is the service's, but for the handles with an open block.
- `service_identity_restored`: every run from a new realm is sound, and hands out current handles only.
-/

namespace DirectoryLogin

namespace Scene

/-! ## §1 Sound scenes -/

/-- Every connection has the environment that the settings of its handle prescribe; while a block is open, its name
and its password may be others. -/
structure Sound (scene : Scene) : Prop where
  poolCurrent : scene.realm.manager.PoolCurrent
  environment : ∀ id h c, scene.realm.manager.handle? id = some h → h.connection = some c →
    c.environment.TidyButIdentity h.settings ∧ (id ∉ scene.blocks → c.environment.HasService h.settings)

variable {scene scene' : Scene}

/-- What the manager keeps, keeps a scene sound. -/
theorem Sound.keeps (hsound : scene.Sound) (hkeeps : scene.realm.Keeps scene'.realm)
    (hblocks : scene'.blocks = scene.blocks) : scene'.Sound where
  poolCurrent := hkeeps.poolCurrent hsound.poolCurrent
  environment id h' c' hid' hc' := by
    rw [hblocks]
    have htidy (h : c'.environment.Tidy h'.settings) : c'.environment.TidyButIdentity h'.settings ∧
        (id ∉ scene.blocks → c'.environment.HasService h'.settings) := by
      rw [Environment.tidy_iff] at h
      exact ⟨h.1, fun _ => h.2⟩
    rcases hid : scene.realm.manager.handle? id with _ | h
    · exact htidy ((hkeeps.new id h' hid' hid).environment c' hc')
    obtain ⟨h'', hid'', hhandle⟩ := hkeeps.old id h hid
    rw [hid'] at hid''
    cases hid''
    -- the connection is new, or it is the old one, whose entries have settled
    rcases hhandle.environment c' hc' with hnew | ⟨c, hc, hsettles⟩
    · rw [← hhandle.settings] at hnew
      exact htidy hnew
    · obtain ⟨hothers, hservice⟩ := hsound.environment id h c hid hc
      rw [hhandle.settings]
      exact ⟨hsettles.tidyButIdentity hothers, fun hidle => hsettles.hasService (hservice hidle)⟩

theorem Sound.call {α : Type} (hsound : scene.Sound) {x : Login α} (hx : x.Respects Realm.Keeps) :
    (scene.call x).Sound :=
  hsound.keeps (hx scene.realm) rfl

theorem Sound.manage {α : Type} (hsound : scene.Sound) {x : Managed α} (hx : x.Respects Manager.Stays) :
    (scene.manage x).Sound :=
  hsound.call (Login.onManager_keeps_of_stays hx)

theorem Sound.use {α : Type} (hsound : scene.Sound) (id : HandleId) {x : Handle → Exchange α} {P : α → Prop}
    (hx : ∀ h, Exchange.Orderly h.settings P (x h)) : (scene.manage (Managed.onHandle id x)).Sound :=
  hsound.manage (Managed.onHandle_stays fun h => (hx h).serves)

/-! ## §2 Blocks -/

/-- An edit of the environment of an open handle keeps a scene sound if it leaves the environment as the blocks that
are open afterwards require. -/
theorem Sound.edit (hsound : scene.Sound) (blocks : List HandleId) {id : HandleId} {h : Handle} {c : Connection}
    {e : Environment} (hid : scene.realm.manager.handle? id = some h)
    (hothers : ∀ other, other ≠ id → other ∉ blocks → other ∉ scene.blocks)
    (he : e.TidyButIdentity h.settings ∧ (id ∉ blocks → e.HasService h.settings))
    (hmanager : scene'.realm.manager = scene.realm.manager.setConnection id (some { c with environment := e }))
    (hblocks : scene'.blocks = blocks) : scene'.Sound := by
  constructor
  · -- the pool has the same handles, and they belong to the same settings
    intro pool hpool other hmem
    rw [hmanager] at hpool ⊢
    rw [Manager.setConnection, Manager.isCurrent_updateHandle]
    · exact hsound.poolCurrent pool hpool other hmem
    · exact fun _ => rfl
  · intro other h' c' hother hc'
    rw [hmanager, Manager.setConnection, Manager.handle?_updateHandle] at hother
    rw [hblocks]
    -- only this handle has another environment, and it is a tidy one
    by_cases heq : id = other
    · subst heq
      rw [if_pos rfl, hid] at hother
      cases hother
      cases hc'
      exact he
    · rw [if_neg heq] at hother
      obtain ⟨hbut, hservice⟩ := hsound.environment other h' c' hother hc'
      exact ⟨hbut, fun hidle => hservice (hothers other (Ne.symm heq) hidle)⟩

theorem Sound.enter (hsound : scene.Sound) (id : HandleId) (name : Option String) (password : Option Password) :
    (scene.enter id name password).Sound := by
  rcases hconnection : scene.realm.manager.connection? id with _ | c
  · -- nothing happens on a handle that is closed
    obtain ⟨e, hclosed⟩ := Managed.perform_onHandle_of_closed hconnection fun _ => Exchange.assumeUser name password
    have hsame : scene.enter id name password = scene := by
      simp only [Scene.enter, Scene.manage, Scene.call, Login.onManager, Session.perform_within, hclosed]
    rw [hsame]
    exact hsound
  · obtain ⟨h, hid, hc⟩ := Manager.of_connection?_eq_some hconnection
    have hopen := Managed.perform_onHandle_of_open hid hc fun _ => Exchange.assumeUser name password
    refine hsound.edit (id :: scene.blocks) (c := c) (e := c.environment.asUser name password) hid ?_ ?_ ?_ ?_
    · exact fun other _ hidle => fun hmem => hidle (List.mem_cons_of_mem _ hmem)
    · obtain ⟨attempt, hattempt, hothers⟩ := (hsound.environment id h c hid hc).1
      refine ⟨⟨attempt, hattempt, fun other hp hn => ?_⟩, fun hidle => absurd List.mem_cons_self hidle⟩
      rw [Environment.get?_asUser _ _ _ hp hn]
      exact hothers other hp hn
    · simp only [Scene.enter, Scene.manage, Scene.call, Login.onManager, Session.perform_within, hopen]
      rfl
    · simp only [Scene.enter, Scene.manage, Scene.call, Login.onManager, Session.perform_within, hopen]
      rfl

theorem Sound.leave (hsound : scene.Sound) (id : HandleId) : (scene.leave id).Sound := by
  -- the block that ends is one of this handle's
  have hothers : ∀ other, other ≠ id → other ∉ scene.blocks.erase id → other ∉ scene.blocks := by
    intro other hne hidle
    rwa [List.mem_erase_of_ne hne] at hidle
  rcases hconnection : scene.realm.manager.connection? id with _ | c
  · obtain ⟨e, hclosed⟩ := Managed.perform_onHandle_of_closed hconnection fun h => Exchange.resumeService h.settings
    refine ⟨?_, ?_⟩
    · simp only [Scene.leave, Scene.manage, Scene.call, Login.onManager, Session.perform_within, hclosed]
      exact hsound.poolCurrent
    · simp only [Scene.leave, Scene.manage, Scene.call, Login.onManager, Session.perform_within, hclosed]
      intro other h c hother hc
      have hne : other ≠ id := by
        rintro rfl
        rw [Manager.connection?, hother, Option.bind_some, hc] at hconnection
        cases hconnection
      obtain ⟨hbut, hservice⟩ := hsound.environment other h c hother hc
      exact ⟨hbut, fun hidle => hservice (hothers other hne hidle)⟩
  · obtain ⟨h, hid, hc⟩ := Manager.of_connection?_eq_some hconnection
    have hopen := Managed.perform_onHandle_of_open hid hc fun h => Exchange.resumeService h.settings
    have hsettles : Environment.Settles h.settings c.environment (c.environment.asService h.settings) :=
      Environment.settles_asService fun _ _ _ => rfl
    refine hsound.edit (scene.blocks.erase id) (c := c) (e := c.environment.asService h.settings) hid hothers ?_ ?_ rfl
    · exact ⟨hsettles.tidyButIdentity (hsound.environment id h c hid hc).1,
        fun _ => Environment.hasService_asService _ _⟩
    · simp only [Scene.leave, Scene.manage, Scene.call, Login.onManager, Session.perform_within, hopen]
      rfl

/-! ## §3 Runs -/

/-- **One activity keeps a scene sound**, however it ends. -/
theorem Sound.step (hsound : scene.Sound) (activity : Activity) : (scene.step activity).Sound := by
  -- a call keeps whole handles, the manager's own moves their snapshots, and a program its environment
  cases activity with
  | start => exact hsound.call Login.start_keeps
  | stop => exact hsound.call Login.stop_keeps
  | authenticate username password => exact hsound.call (Login.authenticate_keeps username password)
  | getPassword username => exact hsound.call (Login.getPassword_keeps username)
  | getPrincipal username credential => exact hsound.call (Login.getPrincipal_keeps username credential)
  | reconfigure snapshot => exact hsound.call (Login.reconfigure_keeps snapshot)
  | acquire => exact hsound.manage Managed.acquire_stays
  | release id => exact hsound.manage (Managed.release_stays id)
  | close id => exact hsound.manage (Managed.close_stays id)
  | drainPool => exact hsound.manage Managed.drainPool_stays
  | openHandle id => exact hsound.manage (Managed.openHandle_stays id)
  | verify id user password => exact hsound.use id fun _ => Exchange.Orderly.verify
  | getUser id username password index => exact hsound.use id fun _ => Exchange.Orderly.getUser
  | findUser id username => exact hsound.use id fun _ => Exchange.Orderly.findUser
  | rolesOf id user => exact hsound.use id fun _ => Exchange.Orderly.rolesOf
  | search id base filter controls => exact hsound.use id fun _ => Exchange.Orderly.search
  | read id dn names => exact hsound.use id fun _ => Exchange.Orderly.read
  | enter id name password => exact hsound.enter id name password
  | leave id => exact hsound.leave id
  | outside w => exact ⟨hsound.poolCurrent, hsound.environment⟩

theorem Sound.run (hsound : scene.Sound) (activities : List Activity) : (scene.run activities).Sound := by
  induction activities generalizing scene with
  | nil => exact hsound
  | cons activity rest ih => exact ih (hsound.step activity)

/-- A new realm has no connections. -/
theorem sound_of_create {registry : Registry} {snapshot : Snapshot} {given : Option Matcher} {w : World} {r : Realm}
    (hcreate : ((Realm.create registry snapshot given).perform w).1 = .ok r) : Sound { realm := r } := by
  obtain ⟨matcher, chosen, _, _, _, _, hmanager⟩ := Realm.of_create_ok hcreate
  constructor
  · intro pool hpool id hmem
    rw [hmanager] at hpool
    rw [Manager.items_of_poolFor hpool] at hmem
    cases hmem
  · intro id h c hid
    rw [hmanager] at hid
    cases hid

end Scene

/-- **The service's identity is always restored.** After any run from a new realm, whatever failed in it, every
connection of a handle on which no block is open has the environment that the handle's settings prescribe for the
usual or for the alternate URL, no entry more and no entry less. And a handle that is handed out then was made for
the snapshot that is active at that moment. -/
theorem service_identity_restored {registry : Registry} {snapshot : Snapshot} {given : Option Matcher} {w : World}
    {r : Realm} (hcreate : ((Realm.create registry snapshot given).perform w).1 = .ok r)
    (activities : List Activity) :
    (∀ id h c, (Scene.run { realm := r } activities).realm.manager.handle? id = some h → h.connection = some c →
      id ∉ (Scene.run { realm := r } activities).blocks →
      ∃ attempt : Int, (attempt = 0 ∨ attempt = 1) ∧
        c.environment.Agrees (Environment.ofSettings h.settings attempt)) ∧
    (∀ id r', (Login.onManager Managed.acquire).perform (Scene.run { realm := r } activities).realm = (.ok id, r') →
      ∃ h, r'.manager.handle? id = some h ∧
        h.snapshot = (Scene.run { realm := r } activities).realm.manager.active) := by
  have hsound := (Scene.sound_of_create hcreate).run activities
  constructor
  · -- outside a block the environment is that of the settings, for one of the two attempts
    intro id h c hid hc hidle
    obtain ⟨hbut, hservice⟩ := hsound.environment id h c hid hc
    exact Environment.tidy_iff.mpr ⟨hbut, hservice hidle⟩
  · -- what is acquired has the active snapshot
    intro id r' hacquire
    rw [Login.onManager, Session.perform_within] at hacquire
    have hresult := congrArg Prod.fst hacquire
    have hstate := congrArg Prod.snd hacquire
    dsimp only at hresult hstate
    have hrun : Managed.acquire.perform (Scene.run { realm := r } activities).realm.manager = (.ok id, r'.manager) :=
      Prod.ext hresult (congrArg Realm.manager hstate)
    obtain ⟨h, _, hid, hsnapshot, _⟩ := Managed.acquire_ok hsound.poolCurrent hrun
    exact ⟨h, hid, hsnapshot⟩

/-! ### A run -/

/-- Settings with a service account, and a pattern for the names of users. -/
def Settings.withService : Settings where
  connectionUrl := some "ldap://directory"
  connectionName := some "cn=service"
  connectionPassword := some "spruce"
  userPattern := some "uid={0}"

/-- A world that knows the service and one user. -/
def World.withService : World where
  directory := { passwords := [("cn=service", "spruce"), ("uid=ada", "pearl")] }

/-- A login, and a block that acts as another user. -/
def Activity.loginAndBlock : List Activity :=
  [.authenticate (some "ada") (some "pearl"), .acquire, .enter 0 (some "uid=eve") (some "coral"), .read 0 "" none,
    .leave 0]

/-- After the block the shared connection is open, and it is the service's again. -/
theorem service_restored_after_block :
    ∃ r, ((Realm.create {} ⟨0, .withService⟩ none).perform .withService).1 = .ok r ∧
      ∃ h c, (Scene.run { realm := r } Activity.loginAndBlock).realm.manager.handle? 0 = some h ∧
        h.connection = some c ∧ 0 ∉ (Scene.run { realm := r } Activity.loginAndBlock).blocks ∧
        ∃ attempt : Int, (attempt = 0 ∨ attempt = 1) ∧
          c.environment.Agrees (Environment.ofSettings h.settings attempt) := by
  have hrun : (((Realm.create {} ⟨0, .withService⟩ none).perform .withService).1.toOption.any fun r =>
      let scene := Scene.run { realm := r } Activity.loginAndBlock
      (scene.realm.manager.connection? 0).isSome && !scene.blocks.contains 0) = true := by decide +kernel
  obtain ⟨r, hcreate, hrun⟩ := exists_ok_of_any hrun
  simp only [Bool.and_eq_true, Bool.not_eq_true', List.contains_eq_mem, decide_eq_false_iff_not] at hrun
  obtain ⟨hopen, hidle⟩ := hrun
  obtain ⟨c, hopen⟩ := Option.isSome_iff_exists.mp hopen
  obtain ⟨h, hid, hc⟩ := Manager.of_connection?_eq_some hopen
  exact ⟨r, hcreate, h, c, hid, hc, hidle, (service_identity_restored hcreate _).1 0 h c hid hc hidle⟩

end DirectoryLogin

import DirectoryLogin.Manager
import DirectoryLogin.Proofs.Opening
import DirectoryLogin.Proofs.Orderly
/-!
# What the Manager Keeps

Whatever the manager does, and however it fails in between, every handle keeps the snapshot it was made for, and its
connection keeps the service's environment: it is the old one, settled, or a new one, tidy.

- `Manager.Keeps`: the order that every step of the manager respects.
- `Manager.PoolCurrent`: no idle handle is older than the active snapshot.
- `acquire_ok`: a handle that is handed out is open and current.
-/

namespace DirectoryLogin

/-! ## §1 One handle -/

/-- How a handle may change while the directory is `d`. A bound identity was bound before, or `d` accepts it. -/
structure Handle.Keeps (d : Directory) (h h' : Handle) : Prop where
  snapshot : h'.snapshot = h.snapshot
  pooled : h'.pooled = h.pooled
  templates : h'.templates = h.templates
  environment : ∀ c', h'.connection = some c' →
    c'.environment.Tidy h.settings ∨
      ∃ c, h.connection = some c ∧ Environment.Settles h.settings c.environment c'.environment
  bound : ∀ c' i, h'.connection = some c' → c'.bound = some i →
    d.Accepts i ∨ ∃ c, h.connection = some c ∧ c.bound = some i

namespace Handle.Keeps

variable {d : Directory} {h h' h'' : Handle}

theorem settings (k : h.Keeps d h') : h'.settings = h.settings :=
  congrArg Snapshot.settings k.snapshot

theorem refl (d : Directory) (h : Handle) : h.Keeps d h where
  snapshot := rfl
  pooled := rfl
  templates := rfl
  environment c hc := .inr ⟨c, hc, refl_of _ _⟩
  bound c _ hc hi := .inr ⟨c, hc, hi⟩

theorem trans (k : h.Keeps d h') (k' : h'.Keeps d h'') : h.Keeps d h'' where
  snapshot := k'.snapshot.trans k.snapshot
  pooled := k'.pooled.trans k.pooled
  templates := k'.templates.trans k.templates
  environment c'' hc'' := by
    -- the environment was settled in the second part, in the first, or not at all
    rcases k'.environment c'' hc'' with htidy | ⟨c', hc', hsettles'⟩
    · exact .inl (k.settings ▸ htidy)
    rw [k.settings] at hsettles'
    rcases k.environment c' hc' with htidy | ⟨c, hc, hsettles⟩
    · exact .inl (hsettles'.tidy htidy)
    · exact .inr ⟨c, hc, trans_of _ hsettles hsettles'⟩
  bound c'' i hc'' hi := by
    -- likewise for who is bound
    rcases k'.bound c'' i hc'' hi with haccepts | ⟨c', hc', hi'⟩
    · exact .inl haccepts
    · exact k.bound c' i hc' hi'

/-- A step on the connection of the handle. -/
theorem ofServes {c c' : Connection} {w w' : World} (hc : h.connection = some c)
    (hserves : Channel.Serves h.settings ⟨c, w⟩ ⟨c', w'⟩) : h.Keeps w.directory { h with connection := some c' } where
  snapshot := rfl
  pooled := rfl
  templates := rfl
  environment := by
    rintro _ ⟨⟩
    exact .inr ⟨c, hc, hserves.environment⟩
  bound := by
    rintro _ i ⟨⟩ hi
    rcases hserves.bound i hi with hold | haccepts
    · exact .inr ⟨c, hc, hold⟩
    · exact .inl haccepts

/-- A new connection. -/
theorem ofOpened {kind : ConnectionKind} {attempt : Int} (hattempt : attempt = 0 ∨ attempt = 1) {c : Connection}
    {w w' : World} (hopened : Connection.Opened kind (Environment.ofSettings h.settings attempt) w c w') :
    h.Keeps w.directory { h with connection := some c } where
  snapshot := rfl
  pooled := rfl
  templates := rfl
  environment := by
    rintro _ ⟨⟩
    exact .inl ⟨attempt, hattempt, hopened.environment⟩
  bound := by
    rintro _ i ⟨⟩ hi
    exact .inl (hopened.bound i hi)

/-- A connection that is gone. -/
theorem ofClosed (d : Directory) (h : Handle) : h.Keeps d { h with connection := none } where
  snapshot := rfl
  pooled := rfl
  templates := rfl
  environment := by rintro _ ⟨⟩
  bound := by rintro _ i ⟨⟩

end Handle.Keeps

/-- A handle that did not exist before has no connection, or a new one. -/
structure Handle.IsNew (d : Directory) (h : Handle) : Prop where
  environment : ∀ c, h.connection = some c → c.environment.Tidy h.settings
  bound : ∀ c i, h.connection = some c → c.bound = some i → d.Accepts i

theorem Handle.IsNew.keeps {d : Directory} {h h' : Handle} (hnew : h.IsNew d) (k : h.Keeps d h') : h'.IsNew d where
  environment c' hc' := by
    rw [k.settings]
    rcases k.environment c' hc' with htidy | ⟨c, hc, hsettles⟩
    · exact htidy
    · exact hsettles.tidy (hnew.environment c hc)
  bound c' i hc' hi := by
    rcases k.bound c' i hc' hi with haccepts | ⟨c, hc, hi'⟩
    · exact haccepts
    · exact hnew.bound c i hc hi'

theorem Handle.isNew_of_closed {h : Handle} (hclosed : h.connection = none) (d : Directory) : h.IsNew d where
  environment c hc := by
    rw [hclosed] at hc
    cases hc
  bound c i hc := by
    rw [hclosed] at hc
    cases hc

theorem Handle.of_create_ok {snapshot : Snapshot} {pooled : Bool} {h : Handle}
    (hcreate : Handle.create snapshot pooled = .ok h) :
    h.snapshot = snapshot ∧ h.pooled = pooled ∧ Templates.compile snapshot.settings = .ok h.templates ∧
      h.connection = none := by
  obtain ⟨templates, hcompile, hcreate⟩ := exists_of_bind_eq_ok hcreate
  cases hcreate
  exact ⟨rfl, rfl, hcompile, rfl⟩

/-! ## §2 All handles -/

namespace Manager

/-- Every idle handle was made for the active snapshot. -/
def PoolCurrent (m : Manager) : Prop :=
  ∀ pool, m.pool = some pool → ∀ id ∈ pool.items, m.isCurrent id = true

/-- What every step of the manager leaves alone: the registries, the directory, and all handles but for what a
connection may do. -/
structure Keeps (m m' : Manager) : Prop where
  registry : m'.registry = m.registry
  directory : m'.world.directory = m.world.directory
  old : ∀ id h, m.handle? id = some h → ∃ h', m'.handle? id = some h' ∧ h.Keeps m.world.directory h'
  new : ∀ id h', m'.handle? id = some h' → m.handle? id = none → h'.IsNew m.world.directory
  poolCurrent : m.PoolCurrent → m'.PoolCurrent

instance : IsPreorder Manager Keeps where
  refl m :=
    { registry := rfl
      directory := rfl
      old := fun id h hid => ⟨h, hid, .refl _ h⟩
      new := fun id h hid hnone => by rw [hid] at hnone; cases hnone
      poolCurrent := id }
  trans m₁ m₂ m₃ k k' :=
    { registry := k'.registry.trans k.registry
      directory := k'.directory.trans k.directory
      -- a handle that was there is kept by both, and what is kept is kept under the same directory
      old := by
        intro id h hid
        obtain ⟨h', hid', hkeeps⟩ := k.old id h hid
        obtain ⟨h'', hid'', hkeeps'⟩ := k'.old id h' hid'
        rw [k.directory] at hkeeps'
        exact ⟨h'', hid'', hkeeps.trans hkeeps'⟩
      -- a new handle is new in one of the two runs
      new := by
        intro id h'' hid'' hnone
        rcases hid' : m₂.handle? id with _ | h'
        · have hnew := k'.new id h'' hid'' hid'
          rwa [k.directory] at hnew
        · obtain ⟨h₃, hid₃, hkeeps⟩ := k'.old id h' hid'
          rw [hid''] at hid₃
          cases hid₃
          rw [k.directory] at hkeeps
          exact (k.new id h' hid' hnone).keeps hkeeps
      poolCurrent := k'.poolCurrent ∘ k.poolCurrent }

/-- A bound identity that the directory does not accept was bound before, on the same handle. -/
theorem Keeps.bound {m m' : Manager} (k : Keeps m m') {id : HandleId} {h' : Handle} {c' : Connection} {i : Identity}
    (hid' : m'.handle? id = some h') (hc' : h'.connection = some c') (hi : c'.bound = some i) :
    m.world.directory.Accepts i ∨
      ∃ h c, m.handle? id = some h ∧ h.snapshot = h'.snapshot ∧ h.connection = some c ∧ c.bound = some i := by
  rcases hid : m.handle? id with _ | h
  · exact .inl ((k.new id h' hid' hid).bound c' i hc' hi)
  obtain ⟨h'', hid'', hkeeps⟩ := k.old id h hid
  rw [hid'] at hid''
  cases hid''
  rcases hkeeps.bound c' i hc' hi with haccepts | ⟨c, hc, hi⟩
  · exact .inl haccepts
  · exact .inr ⟨h, c, rfl, hkeeps.snapshot.symm, hc, hi⟩

/-- The same, with the active snapshot left alone too. -/
structure Stays (m m' : Manager) : Prop extends Keeps m m' where
  active : m'.active = m.active

instance : IsPreorder Manager Stays where
  refl m := ⟨refl_of Keeps m, rfl⟩
  trans _ _ _ k k' := ⟨trans_of Keeps k.toKeeps k'.toKeeps, k'.active.trans k.active⟩

/-! ### A new manager -/

theorem items_of_poolFor {s : Settings} {pool : Pool HandleId} (h : poolFor s = some pool) : pool.items = [] := by
  unfold poolFor at h
  split at h
  · cases h
    rfl
  · cases h

theorem perform_forM_write (notes : List Message) (w : World) :
    (notes.forM fun note => (modify (·.write note) : Session World PUnit)).perform w =
      (.ok ⟨⟩, { w with journal := w.journal ++ notes }) := by
  induction notes generalizing w with
  | nil =>
    rw [List.append_nil]
    rfl
  | cons note rest ih =>
    have hcons : ((note :: rest).forM fun note => (modify (·.write note) : Session World PUnit)) =
        (modify (·.write note) >>= fun _ => rest.forM fun note => modify (·.write note)) := rfl
    rw [hcons, Session.perform_bind_of_ok (Session.perform_modify _ w), ih]
    simp [World.write]

/-- **A new manager** has no handles; the settings are checked before it exists. -/
theorem perform_create (registry : Registry) (snapshot : Snapshot) (w : World) :
    (create registry snapshot).perform w =
      match registry.collaborators snapshot.settings with
      | .error e => (.error e, w)
      | .ok chosen =>
        let w₁ := { w with journal := w.journal ++ chosen.notes }
        match Handle.create snapshot false with
        | .error e => (.error e, w₁)
        | .ok _ =>
          (.ok { registry := registry, active := snapshot, connector := chosen.connector, tls := chosen.tls,
                 pool := poolFor snapshot.settings, world := w₁ }, w₁) := by
  unfold create
  rcases registry.collaborators snapshot.settings with e | chosen
  · rfl
  rw [Session.perform_bind_of_ok (Session.perform_ofExcept (.ok chosen) w),
    Session.perform_bind_of_ok (perform_forM_write chosen.notes w)]
  rcases Handle.create snapshot false with e | h
  · rfl
  · rfl

/-! ## §3 Steps on the handles -/

theorem handle?_updateHandle (m : Manager) (id other : HandleId) (f : Handle → Handle) :
    (m.updateHandle id f).handle? other = if id = other then (m.handle? other).map f else m.handle? other := by
  simp only [handle?, updateHandle, List.getElem?_modify]
  split
  · rfl
  · simp

/-- A change that keeps the snapshot keeps handles current. -/
theorem isCurrent_updateHandle {f : Handle → Handle} (hf : ∀ h, (f h).snapshot = h.snapshot) (m : Manager)
    (id other : HandleId) : (m.updateHandle id f).isCurrent other = m.isCurrent other := by
  have hactive : (m.updateHandle id f).active = m.active := rfl
  rw [isCurrent, isCurrent, handle?_updateHandle, hactive]
  split
  · simp [Option.any_map, hf]
  · rfl

theorem of_connection?_eq_some {m : Manager} {id : HandleId} {c : Connection} (h : m.connection? id = some c) :
    ∃ handle, m.handle? id = some handle ∧ handle.connection = some c :=
  Option.bind_eq_some_iff.mp h

/-- Current handles stay current as long as handles keep their snapshots. -/
theorem isCurrent_of_old {m m' : Manager} (hactive : m'.active = m.active)
    (hold : ∀ id h, m.handle? id = some h → ∃ h', m'.handle? id = some h' ∧ h'.snapshot = h.snapshot)
    {id : HandleId} (h : m.isCurrent id = true) : m'.isCurrent id = true := by
  obtain ⟨handle, hid, hsame⟩ := (Option.any_eq_true _ _).mp h
  obtain ⟨handle', hid', hsnapshot⟩ := hold id handle hid
  rw [isCurrent, hid', Option.any_some, hsnapshot, hactive]
  exact hsame

/-- One handle changes, in a way that handles may. -/
theorem Stays.ofUpdate {m m' : Manager} (id : HandleId) (f : Handle → Handle) (hregistry : m'.registry = m.registry)
    (hactive : m'.active = m.active) (hpool : m'.pool = m.pool)
    (hdirectory : m'.world.directory = m.world.directory)
    (hhandles : ∀ other, m'.handle? other = if id = other then (m.handle? other).map f else m.handle? other)
    (hf : ∀ h, m.handle? id = some h → h.Keeps m.world.directory (f h)) : Stays m m' := by
  -- the other handles are what they were
  have hold : ∀ other h, m.handle? other = some h →
      ∃ h', m'.handle? other = some h' ∧ h.Keeps m.world.directory h' := by
    intro other h hother
    rw [hhandles]
    by_cases heq : id = other
    · subst heq
      exact ⟨f h, by rw [if_pos rfl, hother]; rfl, hf h hother⟩
    · exact ⟨h, by rw [if_neg heq, hother], .refl _ h⟩
  refine ⟨⟨hregistry, hdirectory, hold, ?_, ?_⟩, hactive⟩
  · intro other h' hother hnone
    rw [hhandles, hnone] at hother
    split at hother <;> cases hother
  · intro hcurrent pool hp other hmem
    rw [hpool] at hp
    refine isCurrent_of_old hactive (fun other h hother => ?_) (hcurrent pool hp other hmem)
    obtain ⟨h', hother', hkeeps⟩ := hold other h hother
    exact ⟨h', hother', hkeeps.snapshot⟩

/-- No handle changes, and the pool gets no new items. -/
theorem Stays.ofHandles {m m' : Manager} (hregistry : m'.registry = m.registry) (hactive : m'.active = m.active)
    (hdirectory : m'.world.directory = m.world.directory) (hhandles : m'.handles = m.handles)
    (hpool : ∀ pool', m'.pool = some pool' → ∀ id ∈ pool'.items,
      m.isCurrent id = true ∨ ∃ pool, m.pool = some pool ∧ id ∈ pool.items) : Stays m m' := by
  -- all handles are the same ones
  have hhandle (id : HandleId) : m'.handle? id = m.handle? id := by rw [handle?, handle?, hhandles]
  have hold : ∀ id h, m.handle? id = some h → ∃ h', m'.handle? id = some h' ∧ h'.snapshot = h.snapshot :=
    fun id h hid => ⟨h, (hhandle id).trans hid, rfl⟩
  refine ⟨⟨hregistry, hdirectory, fun id h hid => ⟨h, (hhandle id).trans hid, .refl _ h⟩, ?_, ?_⟩, hactive⟩
  · intro id h' hid hnone
    rw [hhandle, hnone] at hid
    cases hid
  · -- what is in the pool now was current, or was in the pool before
    intro hcurrent pool' hp id hmem
    refine isCurrent_of_old hactive hold ?_
    rcases hpool pool' hp id hmem with h | ⟨pool, hp', hmem'⟩
    · exact h
    · exact hcurrent pool hp' id hmem'

/-- Neither the handles nor the pool change. -/
theorem Stays.ofFrame {m m' : Manager} (hregistry : m'.registry = m.registry) (hactive : m'.active = m.active)
    (hdirectory : m'.world.directory = m.world.directory) (hhandles : m'.handles = m.handles)
    (hpool : m'.pool = m.pool) : Stays m m' :=
  .ofHandles hregistry hactive hdirectory hhandles fun pool' hp _ hmem => .inr ⟨pool', hpool ▸ hp, hmem⟩

/-- There is one more handle, without a connection. -/
theorem Stays.ofNewHandle (m : Manager) {h : Handle} (hclosed : h.connection = none) :
    Stays m { m with handles := m.handles ++ [h] } := by
  have hold (id : HandleId) (h' : Handle) (hid : m.handle? id = some h') :
      (m.handles ++ [h])[id]? = some h' := by
    obtain ⟨hlt, -⟩ := List.getElem?_eq_some_iff.mp hid
    rw [List.getElem?_append_left hlt]
    exact hid
  refine ⟨⟨rfl, rfl, fun id h' hid => ⟨h', hold id h' hid, .refl _ h'⟩, ?_, ?_⟩, rfl⟩
  · intro id h' hid hnone
    -- a number that had no handle before can only be that of the new one
    have hlength : m.handles.length ≤ id := List.getElem?_eq_none_iff.mp hnone
    have hlast : [h][id - m.handles.length]? = some h' := by
      rw [← List.getElem?_append_right hlength]
      exact hid
    obtain rfl : h' = h := by
      rcases hk : id - m.handles.length with _ | k
      · rw [hk] at hlast
        cases hlast
        rfl
      · rw [hk] at hlast
        cases hlast
    exact Handle.isNew_of_closed hclosed _
  · intro hcurrent pool hp id hmem
    refine isCurrent_of_old (m := m) ?_ ?_ (hcurrent pool hp id hmem)
    · rfl
    · exact fun id h' hid => ⟨h', hold id h' hid, rfl⟩

/-- The handle was made for the snapshot. -/
def HasSnapshot (m : Manager) (id : HandleId) (snapshot : Snapshot) : Prop :=
  ∃ h, m.handle? id = some h ∧ h.snapshot = snapshot

/-- The shared handle, if it was made for this snapshot. -/
def sharedFor? (m : Manager) (snapshot : Snapshot) : Option HandleId :=
  m.shared.filter fun h => (m.handle? h).any (·.snapshot == snapshot)

/-- The handle that was made ready, if it was made for this snapshot. -/
def readyFor? (m : Manager) (snapshot : Snapshot) : Option HandleId :=
  m.ready.filter fun h => (m.handle? h).any (·.snapshot == snapshot)

end Manager

namespace Managed

open Manager

variable {α : Type}

/-! ## §4 The steps of the manager -/

/-- A step outside that leaves the directory alone. -/
theorem onWorld_stays {x : Session World α} (hx : x.Respects fun w w' => w'.directory = w.directory) :
    (onWorld x).Respects Stays :=
  fun m => .ofFrame rfl rfl (hx m.world) rfl rfl

theorem say_stays (level : Level) (text : String) : (say level text).Respects Stays :=
  onWorld_stays fun _ => rfl

theorem lock_stays : lock.Respects Stays := by
  refine .bind_get fun m => ?_
  split
  · exact refl_of _ m
  · exact .ofFrame rfl rfl rfl rfl rfl

theorem unlock_stays : unlock.Respects Stays := by
  refine .bind_get fun m => ?_
  split
  · exact refl_of _ m
  · exact .ofFrame rfl rfl rfl rfl rfl

theorem newHandle_stays (snapshot : Snapshot) (pooled : Bool) : (newHandle snapshot pooled).Respects Stays := by
  intro m
  unfold newHandle
  rcases hcreate : Handle.create snapshot pooled with e | h
  · exact refl_of _ m
  · exact .ofNewHandle m (Handle.of_create_ok hcreate).2.2.2

/-- A step on the connection of a handle, as it is seen from the manager. -/
theorem perform_onConnection (id : HandleId) (x : Exchange α) (m : Manager) :
    (onConnection id x).perform m =
      match m.connection? id with
      | none => (.error (.defect .missingAttribute "'NoneType' object has no attribute 'environment'"), m)
      | some c =>
        ((x.perform ⟨c, m.world⟩).1,
          { m.setConnection id (some (x.perform ⟨c, m.world⟩).2.connection) with
            world := (x.perform ⟨c, m.world⟩).2.world }) := by
  rw [onConnection, Session.perform_bind_of_ok (Session.perform_get m)]
  rcases m.connection? id with _ | c <;> rfl

/-- Orderly programs on the connection of a handle. -/
theorem onConnection_stays {id : HandleId} {x : Exchange α} {m : Manager}
    (hx : ∀ h, m.handle? id = some h → x.Respects (Channel.Serves h.settings)) :
    Stays m ((onConnection id x).perform m).2 := by
  rw [perform_onConnection]
  rcases hc : m.connection? id with _ | c
  · exact refl_of _ m
  obtain ⟨handle, hid, hopen⟩ := of_connection?_eq_some hc
  have hserves := hx handle hid ⟨c, m.world⟩
  refine .ofUpdate id (fun h => { h with connection := some (x.perform ⟨c, m.world⟩).2.connection }) rfl
    rfl rfl hserves.world.directory (fun other => handle?_updateHandle m id other _) fun h hid' => ?_
  rw [hid] at hid'
  cases hid'
  exact .ofServes hopen hserves

/-- One attempt to open the connection of a handle. -/
theorem perform_openAttempt (id : HandleId) (s : Settings) (attempt : Int) (m : Manager) :
    (openAttempt id s attempt).perform m =
      match (Connection.openWith m.connector m.tls (Environment.ofSettings s attempt)).perform m.world with
      | (.ok c, w) => (.ok (), { m.setConnection id (some c) with world := w })
      | (.error e, w) => (.error e, { m with world := w }) := by
  rcases h : (Connection.openWith m.connector m.tls (Environment.ofSettings s attempt)).perform m.world with ⟨e | c, w⟩
  all_goals simp [openAttempt, connect, onWorld, Session.perform_bind, Session.perform_within, h]
  rfl

/-- **Opening a handle** is establishing a connection for its settings. -/
theorem perform_openHandle {id : HandleId} {m : Manager} {h : Handle} (hid : m.handle? id = some h) :
    (openHandle id).perform m =
      match (Connection.establish m.connector m.tls h.settings).perform m.world with
      | (.ok c, w) => (.ok (), { m.setConnection id (some c) with world := w })
      | (.error e, w) => (.error e, { m with world := w }) := by
  rw [openHandle, Session.perform_bind_of_ok (Session.perform_get m)]
  simp only [hid, Connection.establish, Session.perform_rescue, perform_openAttempt]
  rcases husual : (Connection.openWith m.connector m.tls (Environment.ofSettings h.settings 0)).perform m.world
    with ⟨e | c, w⟩
  · dsimp only
    -- only a failure that can be caught leads to the alternate URL
    by_cases hordinary : e.isOrdinary = true
    · simp only [hordinary, Bool.not_true, Bool.false_eq_true, if_false]
      rcases h.settings.alternateUrl with _ | alternate
      · rfl
      simp only [Session.perform_bind, say, onWorld, Session.perform_within, World.say, Session.perform_modify,
        Session.perform_rescue, perform_openAttempt]
      rcases (Connection.openWith m.connector m.tls (Environment.ofSettings h.settings 1)).perform _ with ⟨e' | c, w'⟩
      · dsimp only
        by_cases hordinary' : e'.isOrdinary = true
        · simp only [hordinary', if_true]
          rfl
        · simp only [hordinary']
          rfl
      · rfl
    · simp only [hordinary]
      rfl
  · rfl

theorem perform_openHandle_of_none {id : HandleId} {m : Manager} (hid : m.handle? id = none) :
    (openHandle id).perform m =
      (.error (.defect .missingAttribute "'NoneType' object has no attribute 'settings'"), m) := by
  rw [openHandle, Session.perform_bind_of_ok (Session.perform_get m)]
  simp only [hid]
  rfl

theorem openHandle_stays (id : HandleId) : (openHandle id).Respects Stays := by
  intro m
  rcases hid : m.handle? id with _ | h
  · rw [perform_openHandle_of_none hid]
    exact refl_of _ m
  rw [perform_openHandle hid]
  have hextends := Connection.establish_extends m.connector m.tls h.settings m.world
  rcases hestablish : (Connection.establish m.connector m.tls h.settings).perform m.world with ⟨e | c, w⟩
  · rw [hestablish] at hextends
    exact .ofFrame rfl rfl hextends.directory rfl rfl
  · rw [hestablish] at hextends
    -- the handle gets a connection that did not exist before
    obtain ⟨attempt, w₀, hattempt, hbefore, hopened⟩ := Connection.establish_opened hestablish
    refine .ofUpdate id (fun h => { h with connection := some c }) rfl rfl rfl hextends.directory
      (fun other => handle?_updateHandle m id other _) fun h' hid' => ?_
    rw [hid] at hid'
    cases hid'
    rw [← hbefore.directory]
    exact .ofOpened hattempt hopened

theorem close_serves (s : Settings) : Exchange.close.Respects (Channel.Serves s) :=
  Exchange.close_proceeds.mono fun _ _ h => h.serves s

theorem closeConnection_stays (id : HandleId) : (closeConnection id).Respects Stays := by
  refine .bind_get fun m => ?_
  split
  · exact refl_of _ m
  -- closing serves, a failure is written down, and in the end the connection is forgotten
  have hclose : (onConnection id Exchange.close).Respects Stays := fun m => onConnection_stays fun h _ => close_serves _
  have hrescued : Session.Respects Stays ((onConnection id Exchange.close).rescue fun e =>
      if e.isOrdinary then some (say .error ("Error closing directory connection: " ++ e.message)) else none) :=
    .rescue_if hclose fun _ _ => say_stays _ _
  have hgone : Session.Respects Stays (modify fun m : Manager => m.setConnection id none) := by
    refine .modify fun m => ?_
    exact .ofUpdate id (fun h => { h with connection := none }) rfl rfl rfl rfl
      (fun other => handle?_updateHandle m id other _) fun h _ => .ofClosed _ h
  exact Session.Respects.bind hrescued (fun _ => hgone) m

/-! ## §5 Acquiring and giving back -/

theorem forM_closeConnection_stays (ids : List HandleId) : (ids.forM closeConnection).Respects Stays :=
  .forM closeConnection_stays ids

/-- Share another handle from now on. -/
def shareNew (snapshot : Snapshot) : Managed HandleId := do
  let m ← get
  set { m with ready := none }
  let h ← match m.readyFor? snapshot with
    | some h => pure h
    | none => newHandle snapshot false
  modify fun m => { m with shared := some h }
  return h

theorem perform_sharedHandle (snapshot : Snapshot) (m : Manager) :
    (sharedHandle snapshot).perform m =
      match m.sharedFor? snapshot with
      | some h => (.ok h, m)
      | none => (m.shared.toList.forM closeConnection >>= fun _ => shareNew snapshot).perform m := by
  rw [sharedHandle, Session.perform_bind_of_ok (Session.perform_get m)]
  have hshared : m.shared.filter (fun h => (m.handle? h).any (·.snapshot == snapshot)) = m.sharedFor? snapshot := rfl
  rw [hshared]
  rcases m.sharedFor? snapshot with _ | h
  · rcases m.shared with _ | old
    · rfl
    · simp only [Option.toList_some, List.forM_eq_forM, List.forM_cons, List.forM_nil]
      simp only [bind_assoc, pure_bind]
      rfl
  · rfl

theorem shareNew_stays (snapshot : Snapshot) : (shareNew snapshot).Respects Stays := by
  refine .bind_get fun m => ?_
  -- what is ready is forgotten before anything else is done
  have hforget : Session.Respects Stays (modify fun m : Manager => { m with ready := none }) :=
    .modify fun m => .ofFrame rfl rfl rfl rfl rfl
  have hshare (h : HandleId) : Session.Respects Stays (do
      modify fun m : Manager => { m with shared := some h }
      return h) := .bind (.modify fun m => .ofFrame rfl rfl rfl rfl rfl) fun _ => .pure _
  refine trans_of Stays (hforget m) ?_
  change Stays { m with ready := none } _
  -- the handle to be shared is the ready one, or a new one
  have htail : Session.Respects Stays (do
      let h ← match m.readyFor? snapshot with
        | some h => pure h
        | none => newHandle snapshot false
      modify fun m : Manager => { m with shared := some h }
      return h) := by
    split
    · exact .bind (.pure _) hshare
    · exact .bind (newHandle_stays _ _) hshare
  exact htail _

theorem sharedHandle_stays (snapshot : Snapshot) : (sharedHandle snapshot).Respects Stays := by
  intro m
  rw [perform_sharedHandle]
  split
  · exact refl_of _ m
  · exact Session.Respects.bind (forM_closeConnection_stays _) (fun _ => shareNew_stays snapshot) m

theorem takeHandle_stays : takeHandle.Respects Stays := by
  refine .bind_get fun m => ?_
  split
  · rename_i pool hpool
    rcases hpop : pool.pop? with _ | ⟨h, rest⟩
    · exact newHandle_stays _ _ m
    · -- the pool has only lost an item
      refine .ofHandles rfl rfl rfl rfl ?_
      rintro pool' ⟨⟩ id hmem
      refine .inr ⟨pool, hpool, ?_⟩
      rw [Pool.items_of_pop? hpop]
      exact List.mem_cons_of_mem _ hmem
  · exact Session.Respects.bind lock_stays
      (fun _ => .onFailure (sharedHandle_stays _) fun _ => unlock_stays) m

theorem acquire_stays : acquire.Respects Stays := by
  refine .bind takeHandle_stays fun id => .bind_get fun m => ?_
  have hunlock : Session.Respects Stays (do if !(← get).isPooled id then unlock) := by
    refine .bind_get fun m => ?_
    split
    · exact unlock_stays m
    · exact refl_of _ m
  split
  · refine Session.Respects.bind ?_ (fun _ => .pure _) m
    exact .onFailure (openHandle_stays id) fun _ => hunlock
  · exact refl_of _ m

theorem release_stays (id : HandleId) : (release id).Respects Stays := by
  refine .bind_get fun m => ?_
  split
  · split
    · rename_i pool' hpush
      split at hpush
      · rename_i hcurrent
        -- the pool has only got the handle that is given back, and that one is current
        obtain ⟨pool, hpool, hpush⟩ := Option.bind_eq_some_iff.mp hpush
        refine .ofHandles rfl rfl rfl rfl ?_
        rintro _ ⟨⟩ other hmem
        rw [Pool.items_of_push? hpush] at hmem
        rcases List.mem_cons.mp hmem with rfl | hold
        · exact .inl hcurrent
        · exact .inr ⟨pool, hpool, hold⟩
      · cases hpush
    · exact closeConnection_stays id m
  · split
    · exact Session.Respects.bind (closeConnection_stays id) (fun _ => unlock_stays) m
    · exact unlock_stays m

theorem close_stays (id : HandleId) : (close id).Respects Stays := by
  refine .bind (closeConnection_stays id) fun _ => .bind_get fun m => ?_
  split
  · exact unlock_stays m
  · exact refl_of _ m

theorem drainPool_stays : drainPool.Respects Stays := by
  refine .bind_get fun m => ?_
  split
  · exact refl_of _ m
  · rename_i pool hpool
    refine trans_of Stays ?_ (forM_closeConnection_stays pool.toList { m with pool := some { pool with items := [] } })
    refine .ofHandles rfl rfl rfl rfl ?_
    rintro pool' ⟨⟩ id hmem
    cases hmem

theorem withConnection_stays {x : HandleId → Managed α} (hx : ∀ id, (x id).Respects Stays) :
    (withConnection x).Respects Stays := by
  refine .bind acquire_stays fun id => .bind ?_ fun a => .bind (release_stays id) fun _ => .pure a
  exact .onFailure (hx id) fun _ => .bind (close_stays id) fun _ => drainPool_stays

theorem closeShared_stays : closeShared.Respects Stays := by
  refine .bind lock_stays fun _ => .bind_get fun m => ?_
  have hforget : Stays m { m with shared := none, ready := none, isLocked := false } := .ofFrame rfl rfl rfl rfl rfl
  exact trans_of Stays hforget (Session.Respects.bind (forM_closeConnection_stays m.shared.toList)
    (fun _ => forM_closeConnection_stays m.ready.toList) _)

theorem shutdown_stays : shutdown.Respects Stays :=
  .bind closeShared_stays fun _ => drainPool_stays

theorem start_stays : start.Respects Stays := by
  have hopened : Session.Respects Stays (do return some (← acquire) : Managed (Option HandleId)) :=
    .bind acquire_stays fun _ => .pure _
  refine .bind (.rescue_if hopened fun _ _ => .bind (say_stays _ _) fun _ => .pure _) fun h? => ?_
  split
  · exact release_stays _
  · exact .pure _

/-! ## §6 Handles that are handed out -/

/-- A handle that passed the comparison of snapshots was made for that snapshot. -/
theorem hasSnapshot_of_any {m : Manager} {id : HandleId} {snapshot : Snapshot}
    (h : (m.handle? id).any (·.snapshot == snapshot) = true) : m.HasSnapshot id snapshot := by
  obtain ⟨handle, hid, hsame⟩ := (Option.any_eq_true _ _).mp h
  exact ⟨handle, hid, eq_of_beq hsame⟩

theorem newHandle_ok {snapshot : Snapshot} {pooled : Bool} {m m' : Manager} {id : HandleId}
    (h : (newHandle snapshot pooled).perform m = (.ok id, m')) : m'.HasSnapshot id snapshot := by
  obtain ⟨handle, m₀, hcreate, h⟩ := Session.of_perform_bind_ok h
  obtain rfl : m = m₀ := congrArg Prod.snd hcreate
  have hcreate : Handle.create snapshot pooled = .ok handle := congrArg Prod.fst hcreate
  cases h
  exact ⟨handle, by simp [Manager.handle?], (Handle.of_create_ok hcreate).1⟩

theorem shareNew_ok {snapshot : Snapshot} {m m' : Manager} {id : HandleId}
    (h : (shareNew snapshot).perform m = (.ok id, m')) : m'.HasSnapshot id snapshot := by
  rw [shareNew, Session.perform_bind_of_ok (Session.perform_get m),
    Session.perform_bind_of_ok (Session.perform_set m _)] at h
  rcases hready : m.readyFor? snapshot with _ | id'
  · rw [hready] at h
    obtain ⟨id', m₁, hnew, h⟩ := Session.of_perform_bind_ok h
    cases h
    have hsnapshot := newHandle_ok hnew
    exact hsnapshot
  · rw [hready] at h
    cases h
    exact hasSnapshot_of_any (m := m) (Option.filter_eq_some_iff.mp hready).2

theorem sharedHandle_ok {snapshot : Snapshot} {m m' : Manager} {id : HandleId}
    (h : (sharedHandle snapshot).perform m = (.ok id, m')) : m'.HasSnapshot id snapshot := by
  rw [perform_sharedHandle] at h
  split at h
  · rename_i id' hshared
    cases h
    exact hasSnapshot_of_any (Option.filter_eq_some_iff.mp hshared).2
  · obtain ⟨_, m₁, _, h⟩ := Session.of_perform_bind_ok h
    exact shareNew_ok h

theorem takeHandle_ok {m m' : Manager} {id : HandleId} (hcurrent : m.PoolCurrent)
    (h : takeHandle.perform m = (.ok id, m')) : m'.HasSnapshot id m.active := by
  rw [takeHandle, Session.perform_bind_of_ok (Session.perform_get m)] at h
  split at h
  · rename_i pool hpool
    -- a pool hands out what it holds, or a new handle if it is empty
    rcases hpop : pool.pop? with _ | ⟨id', rest⟩
    · simp only [hpop] at h
      exact newHandle_ok h
    · simp only [hpop] at h
      cases h
      have hmem : id ∈ pool.items := by
        rw [Pool.items_of_pop? hpop]
        exact List.mem_cons_self
      exact hasSnapshot_of_any (hcurrent pool hpool id hmem)
  · obtain ⟨_, m₁, _, h⟩ := Session.of_perform_bind_ok h
    exact sharedHandle_ok (Session.of_perform_onFailure_ok h)

/-- **Handles that are handed out** are open, and were made for the snapshot that is active at that moment. -/
theorem acquire_ok {m m' : Manager} {id : HandleId} (hcurrent : m.PoolCurrent)
    (h : acquire.perform m = (.ok id, m')) :
    ∃ handle c, m'.handle? id = some handle ∧ handle.snapshot = m.active ∧ handle.connection = some c := by
  obtain ⟨id', m₁, htake, h⟩ := Session.of_perform_bind_ok h
  obtain ⟨handle, hid, hsnapshot⟩ := takeHandle_ok hcurrent htake
  rw [Session.perform_bind_of_ok (Session.perform_get m₁)] at h
  rcases hconnection : m₁.connection? id' with _ | c
  · -- the handle was closed, and its connection is the one that was established
    simp only [hconnection, Option.isNone_none, if_true] at h
    obtain ⟨_, m₂, hopen, h⟩ := Session.of_perform_bind_ok h
    cases h
    have hopen := Session.of_perform_onFailure_ok hopen
    rw [perform_openHandle hid] at hopen
    rcases hestablish : (Connection.establish m₁.connector m₁.tls handle.settings).perform m₁.world with ⟨e | c, w⟩
    · rw [hestablish] at hopen
      cases hopen
    · rw [hestablish] at hopen
      cases hopen
      refine ⟨{ handle with connection := some c }, c, ?_, hsnapshot, rfl⟩
      refine (handle?_updateHandle m₁ id id _).trans ?_
      rw [if_pos rfl, hid]
      rfl
  · -- the handle was open already
    simp only [hconnection] at h
    cases h
    obtain ⟨handle', hid', hc⟩ := of_connection?_eq_some hconnection
    rw [hid] at hid'
    cases hid'
    exact ⟨handle, c, hid, hsnapshot, hc⟩

/-! ## §7 New settings -/

/-- Make the chosen snapshot the active one: the moment from which on new handles are made for it. -/
def activate (snapshot : Snapshot) (chosen : Registry.Collaborators) (id : HandleId) (m : Manager) : Manager :=
  { m with
    active := snapshot, connector := chosen.connector, tls := chosen.tls,
    pool := (Manager.poolFor snapshot.settings).map fun pool => (pool.push? id).getD pool,
    ready := if snapshot.settings.poolingEnabled then m.ready else some id }

/-- Close what was idle under the old settings. -/
def retire (pool : Option (Pool HandleId)) (s : Settings) : Managed Unit := do
  (pool.elim [] Pool.toList).forM closeConnection
  if s.poolingEnabled then closeShared
  say .info "Directory realm reconfigured"

theorem perform_reconfigure (snapshot : Snapshot) (m : Manager) :
    (reconfigure snapshot).perform m =
      match m.registry.collaborators snapshot.settings with
      | .error e => (.error e, m)
      | .ok chosen =>
        (chosen.notes.forM (fun note => onWorld (modify (·.write note))) >>= fun _ =>
          newHandle snapshot snapshot.settings.poolingEnabled >>= fun id =>
          get >>= fun m =>
          set (activate snapshot chosen id m) >>= fun _ =>
          retire m.pool snapshot.settings >>= fun _ => pure id).perform m := by
  rw [reconfigure, Session.perform_bind_of_ok (Session.perform_get m)]
  rcases m.registry.collaborators snapshot.settings with e | chosen
  · rfl
  · rw [Session.perform_bind_of_ok (Session.perform_ofExcept (.ok chosen) m)]
    -- what is done after the note is the same, pool or no pool
    refine congrArg (fun x => Session.perform x m) ?_
    refine bind_congr fun _ => bind_congr fun id => bind_congr fun m => bind_congr fun _ => ?_
    unfold retire
    rcases m.pool with _ | old
    · rcases snapshot.settings.poolingEnabled
      · rfl
      · simp only [bind_assoc, if_true]
        rfl
    · rcases snapshot.settings.poolingEnabled
      · simp only [bind_assoc]
        rfl
      · simp only [bind_assoc, if_true]
        rfl

theorem retire_stays (pool : Option (Pool HandleId)) (s : Settings) : (retire pool s).Respects Stays := by
  refine .bind (forM_closeConnection_stays _) fun _ => ?_
  split
  · exact .bind closeShared_stays fun _ => say_stays _ _
  · exact say_stays _ _

/-- The new snapshot becomes active together with a pool that holds nothing but a handle for it. -/
theorem keeps_activate {snapshot : Snapshot} {id : HandleId} {m : Manager} (h : m.HasSnapshot id snapshot)
    (chosen : Registry.Collaborators) : Keeps m (activate snapshot chosen id m) where
  registry := rfl
  directory := rfl
  old _ handle hid := ⟨handle, hid, .refl _ handle⟩
  new other handle hid hnone := by
    have hid : m.handle? other = some handle := hid
    rw [hid] at hnone
    cases hnone
  poolCurrent _ pool hpool other hmem := by
    obtain ⟨empty, hempty, rfl⟩ := Option.map_eq_some_iff.mp hpool
    -- the new pool holds one handle, and it belongs to these settings
    obtain rfl : other = id := by
      rcases Pool.mem_items_push? hmem with rfl | hold
      · rfl
      · rw [Manager.items_of_poolFor hempty] at hold
        cases hold
    obtain ⟨handle, hid, hsnapshot⟩ := h
    have hid : (activate snapshot chosen other m).handle? other = some handle := hid
    rw [Manager.isCurrent, hid, Option.any_some, hsnapshot]
    exact beq_self_eq_true _

/-- New settings respect whatever the steps respect that leave the settings alone, if making them the active ones
does. -/
theorem reconfigure_respects {R : Manager → Manager → Prop} [IsPreorder Manager R] {snapshot : Snapshot}
    (hstays : ∀ m m', Stays m m' → R m m')
    (hactivate : ∀ m id chosen, m.HasSnapshot id snapshot → R m (activate snapshot chosen id m)) :
    (reconfigure snapshot).Respects R := by
  intro m
  rw [perform_reconfigure]
  split
  · exact refl_of _ m
  rename_i chosen _
  have hsteady {α : Type} {x : Managed α} (hx : x.Respects Stays) : x.Respects R := hx.mono hstays
  have hnotes : Session.Respects R (chosen.notes.forM fun note => onWorld (modify (·.write note))) :=
    hsteady (.forM (fun _ => onWorld_stays fun _ => rfl) _)
  refine Session.Respects.bind hnotes (fun _ => ?_) m
  -- the handle that is made has the new snapshot, which becomes active in the next step
  refine .bind_of_value (hsteady (newHandle_stays _ _)) fun _ id m hnew => ?_
  have hactivated := hactivate m id chosen (newHandle_ok hnew)
  exact trans_of R hactivated
    (Session.Respects.bind (hsteady (retire_stays m.pool snapshot.settings)) (fun _ => .pure id) _)

/-- **New settings** take effect without a trace on the handles that exist. -/
theorem reconfigure_keeps (snapshot : Snapshot) : (reconfigure snapshot).Respects Keeps :=
  reconfigure_respects (fun _ _ h => h.toKeeps) fun _ _ chosen h => keeps_activate h chosen

/-- After new settings the active snapshot is the new one, or the old one if the settings were rejected. -/
theorem reconfigure_active (snapshot : Snapshot) (m : Manager) :
    ((reconfigure snapshot).perform m).2.active = m.active ∨
      ((reconfigure snapshot).perform m).2.active = snapshot := by
  let R : Manager → Manager → Prop := fun m m' => m'.active = m.active ∨ m'.active = snapshot
  have hpreorder : IsPreorder Manager R :=
    { refl := fun _ => .inl rfl
      trans := fun _ _ _ h g => g.elim (fun hsame => h.imp hsame.trans hsame.trans) .inr }
  have hrespects : (reconfigure snapshot).Respects R :=
    reconfigure_respects (fun _ _ h => .inl h.active) fun _ _ _ _ => .inr rfl
  exact hrespects m

end Managed

end DirectoryLogin

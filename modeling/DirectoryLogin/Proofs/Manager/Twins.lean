import DirectoryLogin.Proofs.Manager.Operations
import DirectoryLogin.Proofs.Realm.Running
import DirectoryLogin.Proofs.Users.Twins
/-!
# The Managers of Two Runs

The manager of one run has the same handles as that of the other, in the same places, and the connections in them are
twins. So it hands out the same handle in both runs, opens and closes the same connections, and writes the same
messages.

- `Managed.acquire_coupled`, `Managed.release_coupled`, `Managed.close_coupled`: lending handles and getting them back.
- `Managed.answer_coupled`: what is answered, with retries and reports.
-/

namespace DirectoryLogin

open Session (Coupled EndsAlike)

variable {p q : Password} {s : Settings} {α : Type}

/-! ## §1 Handles and managers -/

/-- Two handles that were made alike for these settings, with twins for connections. -/
structure Handle.Twins (p q : Password) (s : Settings) (h h' : Handle) : Prop where
  snapshot : h'.snapshot = h.snapshot
  pooled : h'.pooled = h.pooled
  templates : h'.templates = h.templates
  settings : h.settings = s
  connection : Option.Rel (Connection.Twins p q) h.connection h'.connection

namespace Manager

/-- Two managers of connections to the directory that differ in the password at most. There have only been these
settings, and the service has neither password. -/
structure Twins (p q : Password) (s : Settings) (m m' : Manager) : Prop where
  standard : m.connector = .standard
  spares : s.Spares p q
  settings : m.active.settings = s
  active : m'.active = m.active
  connector : m'.connector = m.connector
  tls : m'.tls = m.tls
  pool : m'.pool = m.pool
  shared : m'.shared = m.shared
  ready : m'.ready = m.ready
  isLocked : m'.isLocked = m.isLocked
  length : m'.handles.length = m.handles.length
  handles : ∀ id, Option.Rel (Handle.Twins p q s) (m.handle? id) (m'.handle? id)
  world : m.world.Twins p q m'.world

namespace Twins

variable {m m' : Manager} (h : m.Twins p q s m')
include h

/-- What is asked of a handle, apart from its connection, has the same answer. -/
theorem any_handle_eq {ask : Handle → Bool} (hask : ∀ g g', Handle.Twins p q s g g' → ask g' = ask g) (id : HandleId) :
    (m'.handle? id).any ask = (m.handle? id).any ask := by
  have hhandle := h.handles id
  generalize m.handle? id = g, m'.handle? id = g' at hhandle
  cases hhandle with
  | some htwins => exact hask _ _ htwins
  | none => rfl

theorem isPooled_eq (id : HandleId) : m'.isPooled id = m.isPooled id :=
  h.any_handle_eq (fun _ _ htwins => htwins.pooled) id

theorem hasSnapshot_eq (snapshot : Snapshot) (id : HandleId) :
    ((m'.handle? id).any fun g => g.snapshot == snapshot) = (m.handle? id).any fun g => g.snapshot == snapshot :=
  h.any_handle_eq (fun _ _ htwins => by rw [htwins.snapshot]) id

theorem isCurrent_eq (id : HandleId) : m'.isCurrent id = m.isCurrent id := by
  rw [isCurrent, isCurrent, h.active]
  exact h.hasSnapshot_eq m.active id

theorem sharedFor?_eq (snapshot : Snapshot) : m'.sharedFor? snapshot = m.sharedFor? snapshot := by
  simp only [sharedFor?, h.shared, h.hasSnapshot_eq snapshot]

theorem readyFor?_eq (snapshot : Snapshot) : m'.readyFor? snapshot = m.readyFor? snapshot := by
  simp only [readyFor?, h.ready, h.hasSnapshot_eq snapshot]

theorem connection? (id : HandleId) : Option.Rel (Connection.Twins p q) (m.connection? id) (m'.connection? id) := by
  have hhandle := h.handles id
  unfold Manager.connection?
  generalize m.handle? id = g, m'.handle? id = g' at hhandle
  cases hhandle with
  | some htwins => exact htwins.connection
  | none => exact .none

theorem isOpen_eq (id : HandleId) : (m'.connection? id).isNone = (m.connection? id).isNone := by
  have hconnection := h.connection? id
  generalize m.connection? id = c, m'.connection? id = c' at hconnection
  cases hconnection with
  | some => rfl
  | none => rfl

/-! ### Changing twins -/

theorem ofWorld {w w' : World} (hw : w.Twins p q w') :
    Manager.Twins p q s { m with world := w } { m' with world := w' } :=
  { h with world := hw }

theorem setConnection (id : HandleId) {c c' : Option Connection} (hc : Option.Rel (Connection.Twins p q) c c') :
    (m.setConnection id c).Twins p q s (m'.setConnection id c') :=
  { h with
    length := by simp only [Manager.setConnection, updateHandle, List.length_modify, h.length]
    handles := fun other => by
      rw [handle?_setConnection, handle?_setConnection]
      split
      · have hhandle := h.handles other
        generalize m.handle? other = g, m'.handle? other = g' at hhandle
        cases hhandle with
        | some htwins => exact .some ⟨htwins.snapshot, htwins.pooled, htwins.templates, htwins.settings, hc⟩
        | none => exact .none
      · exact h.handles other }

/-- One more handle, without a connection. -/
theorem withHandle {handle : Handle} (hsettings : handle.settings = s) (hclosed : handle.connection = none) :
    Manager.Twins p q s { m with handles := m.handles ++ [handle] } { m' with handles := m'.handles ++ [handle] } :=
  { h with
    length := by rw [List.length_append, List.length_append, h.length]
    handles := fun id => by
      have hnew : Handle.Twins p q s handle handle := ⟨rfl, rfl, rfl, hsettings, by rw [hclosed]; exact .none⟩
      unfold handle?
      -- the new handle has the same number in both runs, since there were as many before
      rw [List.getElem?_append, List.getElem?_append, h.length]
      split
      · exact h.handles id
      · rcases id - m.handles.length with _ | n
        · exact .some hnew
        · exact .none }

end Twins

end Manager

/-! ## §2 Steps of the manager -/

namespace Managed

open Manager (Twins)

variable {Q : α → α → Prop}

theorem onWorld_coupled {x y : Session World α} (hx : Coupled (World.Twins p q) Q x y) :
    Coupled (Twins p q s) Q (onWorld x) (onWorld y) :=
  .within hx (fun _ _ h => h.world) fun _ _ _ _ h hworld => h.ofWorld hworld

theorem say_coupled (level : Level) (text : String) : Coupled (Twins p q s) Eq (say level text) (say level text) :=
  onWorld_coupled (World.say_coupled _ _ _)

theorem onConnection_coupled (id : HandleId) {x y : Exchange α} (hx : Coupled (Channel.Twins p q) Q x y) :
    Coupled (Twins p q s) Q (onConnection id x) (onConnection id y) := by
  intro m m' h
  rw [perform_onConnection, perform_onConnection]
  have hconnection := h.connection? id
  generalize m.connection? id = c, m'.connection? id = c' at hconnection
  cases hconnection with
  | none => exact ⟨.error _, h⟩
  | some hc =>
    obtain ⟨hresult, hstate⟩ := hx ⟨_, m.world⟩ ⟨_, m'.world⟩ ⟨hc, h.world⟩
    exact ⟨hresult, (h.setConnection id (.some hstate.connection)).ofWorld hstate.world⟩

theorem newHandle_coupled {snapshot : Snapshot} (hs : snapshot.settings = s) (pooled : Bool) :
    Coupled (Twins p q s) Eq (newHandle snapshot pooled) (newHandle snapshot pooled) := by
  intro m m' h
  unfold newHandle
  rcases hcreate : Handle.create snapshot pooled with e | handle
  · exact ⟨.error e, h⟩
  · obtain ⟨hsnapshot, -, -, hclosed⟩ := Handle.of_create_ok hcreate
    have hsettings : handle.settings = s := by rwa [Handle.settings, hsnapshot]
    exact ⟨.ok h.length.symm, h.withHandle hsettings hclosed⟩

theorem lock_coupled : Coupled (Twins p q s) Eq lock lock := by
  have htake : Coupled (Twins p q s) Eq (modify fun m => { m with isLocked := true })
      (modify fun m => { m with isLocked := true }) := .modify fun _ _ h => { h with isLocked := rfl }
  refine .bind_get fun m m' h => ?_
  rw [h.isLocked]
  split
  · exact .bind_same (.throw _) fun _ => htake
  · exact htake

theorem unlock_coupled : Coupled (Twins p q s) Eq unlock unlock := by
  have hgive : Coupled (Twins p q s) Eq (modify fun m => { m with isLocked := false })
      (modify fun m => { m with isLocked := false }) := .modify fun _ _ h => { h with isLocked := rfl }
  refine .bind_get fun m m' h => ?_
  rw [h.isLocked]
  split
  · exact .bind_same (.throw _) fun _ => hgive
  · exact hgive

theorem unlockFor_coupled (id : HandleId) : Coupled (Twins p q s) Eq (unlockFor id) (unlockFor id) := by
  refine .bind_get fun m m' h => ?_
  rw [h.isPooled_eq]
  split
  · exact unlock_coupled
  · exact .pure rfl

/-! ## §3 Opening and closing -/

theorem openHandle_coupled (id : HandleId) : Coupled (Twins p q s) Eq (openHandle id) (openHandle id) := by
  intro m m' h
  have hhandle := h.handles id
  rcases hid : m.handle? id with _ | handle
  all_goals rcases hid' : m'.handle? id with _ | handle'
  all_goals
    rw [hid, hid'] at hhandle
    cases hhandle
  · rw [perform_openHandle_of_none hid, perform_openHandle_of_none hid']
    exact ⟨.error _, h⟩
  rename_i htwins
  have hspares : handle.settings.Spares p q := htwins.settings ▸ h.spares
  -- opened as the service of the same settings, in the same way
  have hsettings : handle'.settings = handle.settings := congrArg Snapshot.settings htwins.snapshot
  have hopening : Connection.establish m.connector m.tls handle.settings =
      Connection.establish .standard m.tls handle.settings := by rw [h.standard]
  have hopening' : Connection.establish m'.connector m'.tls handle'.settings =
      Connection.establish .standard m.tls handle.settings := by rw [h.connector, h.standard, h.tls, hsettings]
  rw [perform_openHandle hid, perform_openHandle hid', hopening, hopening']
  obtain ⟨hresult, hworld⟩ := Connection.establish_coupled m.tls hspares m.world m'.world h.world
  rcases hrun : (Connection.establish .standard m.tls handle.settings).perform m.world with ⟨result, w⟩
  rcases hrun' : (Connection.establish .standard m.tls handle.settings).perform m'.world with ⟨result', w'⟩
  rw [hrun, hrun'] at hresult hworld
  dsimp only at hresult hworld
  cases hresult with
  | ok hc => exact ⟨.ok rfl, (h.setConnection id (.some hc)).ofWorld hworld⟩
  | error e => exact ⟨.error e, h.ofWorld hworld⟩

theorem closeConnection_coupled (id : HandleId) :
    Coupled (Twins p q s) Eq (closeConnection id) (closeConnection id) := by
  refine .bind_get fun m m' h => ?_
  rw [h.isOpen_eq]
  split
  · exact .pure rfl
  · exact .bind_same (.rescue_if (onConnection_coupled id Exchange.close_coupled) fun _ _ => say_coupled _ _) fun _ =>
      .modify fun _ _ h => h.setConnection id .none

/-! ## §4 Lending -/

theorem shareNew_coupled {snapshot : Snapshot} (hs : snapshot.settings = s) :
    Coupled (Twins p q s) Eq (shareNew snapshot) (shareNew snapshot) := by
  -- both managers share the handle they get
  have hshare (id : HandleId) : Coupled (Twins p q s) Eq
      (do modify fun m => { m with shared := some id }
          return id) (do modify fun m => { m with shared := some id }
                         return id) :=
    .bind_same (.modify fun _ _ h => { h with shared := rfl }) fun _ => .pure rfl
  refine .bind_get_at fun m m' h => ?_
  rw [Session.perform_bind_of_ok (Session.perform_set _ _), Session.perform_bind_of_ok (Session.perform_set _ _),
    h.readyFor?_eq]
  -- the prepared handle is used up in both
  have hready : Twins p q s { m with ready := none } { m' with ready := none } := { h with ready := rfl }
  rcases m.readyFor? snapshot with _ | id
  · exact Coupled.bind_same (newHandle_coupled hs false) hshare _ _ hready
  · exact Coupled.bind_same (.pure rfl) hshare _ _ hready

theorem sharedHandle_coupled {snapshot : Snapshot} (hs : snapshot.settings = s) :
    Coupled (Twins p q s) Eq (sharedHandle snapshot) (sharedHandle snapshot) := by
  intro m m' h
  rw [perform_sharedHandle, perform_sharedHandle, h.sharedFor?_eq, h.shared]
  rcases m.sharedFor? snapshot with _ | id
  · exact Coupled.bind_same (.forM closeConnection_coupled _) (fun _ => shareNew_coupled hs) m m' h
  · exact ⟨.ok rfl, h⟩

theorem takeHandle_coupled : Coupled (Twins p q s) Eq takeHandle takeHandle := by
  refine .bind_get_at fun m m' h => ?_
  rw [h.pool]
  rcases m.pool with _ | pool
  · rw [h.active]
    exact Coupled.bind_same lock_coupled (fun _ => .onFailure (sharedHandle_coupled h.settings) fun _ => unlock_coupled)
      m m' h
  · rcases hpop : pool.pop? with _ | ⟨id, rest⟩
    · simp only [hpop, h.active]
      exact newHandle_coupled h.settings true m m' h
    · simp only [hpop]
      exact ⟨.ok rfl, { h with pool := rfl }⟩

/-- **Acquiring a handle** hands out the same one. -/
theorem acquire_coupled : Coupled (Twins p q s) Eq acquire acquire := by
  rw [acquire_eq]
  refine .bind_same takeHandle_coupled fun id => .bind_get fun m m' h => ?_
  rw [h.isOpen_eq]
  split
  · exact .bind_same (.onFailure (openHandle_coupled id) fun _ => unlockFor_coupled id) fun _ => .pure rfl
  · exact .pure rfl

theorem close_coupled (id : HandleId) : Coupled (Twins p q s) Eq (close id) (close id) := by
  rw [close_eq]
  exact .bind_same (closeConnection_coupled id) fun _ => unlockFor_coupled id

theorem release_coupled (id : HandleId) : Coupled (Twins p q s) Eq (release id) (release id) := by
  refine .bind_get_at fun m m' h => ?_
  rw [h.isPooled_eq, h.isCurrent_eq, h.pool]
  split
  · rcases if m.isCurrent id then m.pool.bind (·.push? id) else none with _ | pool
    · exact closeConnection_coupled id m m' h
    · exact ⟨.ok rfl, { h with pool := rfl }⟩
  · split
    · exact Coupled.bind_same (closeConnection_coupled id) (fun _ => unlock_coupled) m m' h
    · exact unlock_coupled m m' h

theorem drainPool_coupled : Coupled (Twins p q s) Eq drainPool drainPool := by
  refine .bind_get_at fun m m' h => ?_
  rw [h.pool]
  rcases m.pool with _ | pool
  · exact ⟨.ok rfl, h⟩
  · have hempty : Twins p q s { m with pool := some pool.drain.2 } { m' with pool := some pool.drain.2 } :=
      { h with pool := rfl }
    exact Coupled.forM closeConnection_coupled _ _ _ hempty

end Managed

end DirectoryLogin

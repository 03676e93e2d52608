import DirectoryLogin.Proofs.Manager.Faultless
import DirectoryLogin.Proofs.Manager.Operations
import DirectoryLogin.Proofs.Realm.Running
/-!
# The First Call of a Realm

A new realm has no connection yet. If one can be opened, and the program of the first call gives a value over it, that
is the whole of the call: the connection is opened, the program is run, and the handle is given back without another
request.

- `Managed.attempt_of_new`: the first attempt of a new manager.
- `Realm.first_login`: the first login of a new realm.
-/

namespace DirectoryLogin

namespace Manager

/-- A manager that has done nothing yet. -/
structure IsNew (m : Manager) : Prop where
  handles : m.handles = []
  shared : m.shared = none
  ready : m.ready = none
  unlocked : m.isLocked = false
  pool : m.pool = poolFor m.active.settings

/-- The first handle of a manager, while it has a connection or not. -/
def firstHandle (m : Manager) (templates : Templates) (c : Option Connection) : Handle where
  snapshot := m.active
  pooled := m.pool.isSome
  templates := templates
  connection := c

end Manager

namespace Managed

open Manager

variable {α : Type} {m : Manager} {templates : Templates} {c : Connection} {w : World}

/-- What a new manager is when it has handed out its first handle. -/
structure HandsOut (m : Manager) (templates : Templates) (c : Option Connection) (w : World) (m' : Manager) : Prop where
  handles : m'.handles = [m.firstHandle templates c]
  active : m'.active = m.active
  connector : m'.connector = m.connector
  tls : m'.tls = m.tls
  pool : m'.pool = m.pool
  locked : m'.isLocked = m.pool.isNone
  world : m'.world = w

/-- The first handle is made anew. -/
theorem takeHandle_of_new (hnew : m.IsNew) (hcompile : Templates.compile m.active.settings = .ok templates) :
    ∃ m', takeHandle.perform m = (.ok 0, m') ∧ HandsOut m templates none m.world m' := by
  rw [takeHandle, Session.perform_bind_of_ok (Session.perform_get m)]
  rcases hsome : m.pool with _ | pool
  · -- without a pool it becomes the shared one, under the mutex
    have hshare (m₁ : Manager) (hhandles : m₁.handles = []) (hshared : m₁.shared = none) (hready : m₁.ready = none) :
        (sharedHandle m.active).perform m₁ =
          (.ok 0, { m₁ with ready := none, shared := some 0, handles := [⟨m.active, false, templates, none⟩] }) := by
      rw [perform_sharedHandle, sharedFor?, hshared]
      show (shareNew m.active).perform m₁ = _
      rw [shareNew, Session.perform_bind_of_ok (Session.perform_get m₁),
        Session.perform_bind_of_ok (Session.perform_set m₁ _), readyFor?, hready]
      dsimp only [Option.filter_none]
      rw [Session.perform_bind_of_ok (perform_newHandle hcompile false _)]
      simp only [hhandles]
      rfl
    dsimp only
    rw [Session.perform_bind_of_ok (perform_lock hnew.unlocked), Session.perform_onFailure,
      hshare { m with isLocked := true } hnew.handles hnew.shared hnew.ready]
    exact ⟨_, rfl, ⟨by rw [firstHandle, hsome]; rfl, rfl, rfl, rfl, rfl, by rw [hsome]; rfl, rfl⟩⟩
  · have hpop : pool.pop? = none := by
      rw [hnew.pool] at hsome
      rw [Pool.pop?, Manager.items_of_poolFor hsome]
    simp only [hpop]
    rw [perform_newHandle hcompile, hnew.handles]
    refine ⟨_, rfl, ⟨?_, rfl, rfl, rfl, rfl, ?_, rfl⟩⟩
    · rw [firstHandle, hsome]
      rfl
    · rw [hsome]
      exact hnew.unlocked

/-- The first handle is opened. -/
theorem acquire_of_new (hnew : m.IsNew) (hcompile : Templates.compile m.active.settings = .ok templates)
    (hopen : (Connection.establish m.connector m.tls m.active.settings).perform m.world = (.ok c, w)) :
    ∃ m', acquire.perform m = (.ok 0, m') ∧ HandsOut m templates (some c) w m' := by
  obtain ⟨m₁, htake, hm₁⟩ := takeHandle_of_new hnew hcompile
  have hid : m₁.handle? 0 = some (m.firstHandle templates none) := by rw [Manager.handle?, hm₁.handles]; rfl
  -- the handle taken has the active settings, so its opening is the one that is given
  have hopened := perform_openHandle hid
  rw [hm₁.connector, hm₁.tls, hm₁.world] at hopened
  have hsettings : (m.firstHandle templates none).settings = m.active.settings := rfl
  rw [hsettings, hopen] at hopened
  have hclosed : m₁.connection? 0 = none := by rw [Manager.connection?, hid]; rfl
  -- it has no connection yet, so it is opened
  rw [acquire_eq, Session.perform_bind_of_ok htake, Session.perform_bind_of_ok (Session.perform_get m₁), hclosed]
  simp only [Option.isNone_none, if_true]
  rw [Session.perform_bind, Session.perform_onFailure, hopened]
  refine ⟨_, rfl, ⟨?_, hm₁.active, hm₁.connector, hm₁.tls, hm₁.pool, hm₁.locked, rfl⟩⟩
  show (m₁.handles.modify 0 _) = _
  rw [hm₁.handles]
  rfl

/-- The first handle is given back: there is room in the pool, or it stays the shared one. -/
theorem release_of_first (hnew : m.IsNew) {c? : Option Connection} {m' : Manager}
    (hout : HandsOut m templates c? w m') : ∃ m'', (release 0).perform m' = (.ok (), m'') ∧ m''.world = w := by
  have hid : m'.handle? 0 = some (m.firstHandle templates c?) := by rw [Manager.handle?, hout.handles]; rfl
  have hpooled : m'.isPooled 0 = m.pool.isSome := by rw [Manager.isPooled, hid]; rfl
  have hcurrent : m'.isCurrent 0 = true := by
    rw [Manager.isCurrent, hid, hout.active]
    exact beq_self_eq_true m.active
  rw [release, Session.perform_bind_of_ok (Session.perform_get m'), hpooled, hcurrent]
  -- without a pool the mutex is held, and given back
  rcases hsome : m.pool with _ | pool
  · have hlocked : m'.isLocked = true := by rw [hout.locked, hsome]; rfl
    refine ⟨{ m' with isLocked := false }, ?_, hout.world⟩
    exact perform_unlock hlocked
  · -- with a pool there is room for the only handle
    have hroom : ∃ full, pool.push? 0 = some full := by
      have hpool := hnew.pool.symm.trans hsome
      have hsize : 1 < m.active.settings.connectionPoolSize :=
        of_decide_eq_true (capacity_of_poolFor hpool).1
      have hcapacity := (capacity_of_poolFor hpool).2
      rw [Pool.push?, Pool.size, Manager.items_of_poolFor hpool, List.length_nil, if_pos (by omega)]
      exact ⟨_, rfl⟩
    obtain ⟨full, hroom⟩ := hroom
    have hpush : m'.pool.bind (·.push? 0) = some full := by rw [hout.pool, hsome]; exact hroom
    refine ⟨{ m' with pool := some full }, ?_, hout.world⟩
    simp only [Option.isSome_some, if_true, hpush]
    rfl

/-- **The first attempt**: the connection is opened, the program is run over it, and nothing else is sent. -/
theorem attempt_of_new {x : Handle → Exchange α} {a : α} {ch : Channel} (hnew : m.IsNew)
    (hcompile : Templates.compile m.active.settings = .ok templates)
    (hopen : (Connection.establish m.connector m.tls m.active.settings).perform m.world = (.ok c, w))
    (hrun : (x (m.firstHandle templates (some c))).perform ⟨c, w⟩ = (.ok a, ch)) :
    ∃ m', (attempt x).perform m = (.ok a, m') ∧ m'.world = ch.world := by
  obtain ⟨m₁, hacquire, hm₁⟩ := acquire_of_new hnew hcompile hopen
  have hid : m₁.handle? 0 = some (m.firstHandle templates (some c)) := by rw [Manager.handle?, hm₁.handles]; rfl
  have hprogram := perform_onHandle_of_open hid rfl x
  rw [hm₁.world, hrun] at hprogram
  -- the program has changed the connection and the world, and nothing else of what was handed out
  have hout : HandsOut m templates (some ch.connection) ch.world
      { m₁.setConnection 0 (some ch.connection) with world := ch.world } := by
    refine ⟨?_, hm₁.active, hm₁.connector, hm₁.tls, hm₁.pool, hm₁.locked, rfl⟩
    show (m₁.handles.modify 0 _) = _
    rw [hm₁.handles]
    rfl
  obtain ⟨m₂, hrelease, hworld⟩ := release_of_first hnew hout
  refine ⟨m₂, ?_, hworld⟩
  rw [attempt_eq, withConnection, Session.perform_bind_of_ok hacquire, Session.perform_bind, Session.perform_onFailure,
    hprogram]
  dsimp only
  rw [Session.perform_bind_of_ok hrelease]
  rfl

/-- The value of the first attempt is the answer. -/
theorem answer_of_new {x : Handle → Exchange (Option α)} {a : Option α} {ch : Channel} (hnew : m.IsNew)
    (hcompile : Templates.compile m.active.settings = .ok templates)
    (hopen : (Connection.establish m.connector m.tls m.active.settings).perform m.world = (.ok c, w))
    (hrun : (x (m.firstHandle templates (some c))).perform ⟨c, w⟩ = (.ok a, ch)) (description : String) :
    ∃ m', (answer description x).perform m = (.ok a, m') ∧ m'.world = ch.world := by
  obtain ⟨m', hattempt, hworld⟩ := attempt_of_new hnew hcompile hopen hrun
  refine ⟨m', ?_, hworld⟩
  rw [answer, Session.perform_rescue, attemptTwice, Session.perform_rescue, hattempt]

end Managed

/-! ## §2 Logins -/

open Exchange

variable {r : Realm} {templates : Templates} {c : Connection} {w : World} {ch : Channel} {h : Handle}
  {username : String} {password : Password} {granted : Option Grant}

/-- The manager of a new realm is new. -/
theorem Realm.isNew_of_create {registry : Registry} {snapshot : Snapshot} {given : Option Matcher} {w : World}
    (hcreate : ((create registry snapshot given).perform w).1 = .ok r) : r.manager.IsNew := by
  obtain ⟨_, _, _, -, -, -, rfl⟩ := of_create_ok hcreate
  exact ⟨rfl, rfl, rfl, rfl, rfl⟩

/-- **The first login**: who is granted what is up to the program over the new connection, and so is all that is sent
after it has been opened. -/
theorem Realm.first_login (hnew : r.manager.IsNew) (hsettings : h.settings = r.settings)
    (hcompile : Templates.compile h.settings = .ok h.templates)
    (hopen : (Connection.establish r.manager.connector r.manager.tls r.settings).perform r.manager.world = (.ok c, w))
    (husername : username ≠ "") (hpassword : password ≠ "")
    (hrun : (authenticate h r.matcher username password).perform ⟨c, w⟩ = (.ok granted, ch)) :
    ((Login.authenticate (some username) (some password)).perform r).1 = .ok (granted.map (·.principal)) ∧
      ((Login.authenticate (some username) (some password)).perform r).2.manager.world.events = ch.world.events := by
  have hname := Login.nonEmpty?_some husername
  have hword := Login.givenPassword?_some hpassword
  have hactive : (r.manager.firstHandle h.templates (some c)).settings = h.settings := hsettings.symm
  have hsame := (uniform_authenticate r.matcher username password).congr hactive rfl
  have hcompile' : Templates.compile r.manager.active.settings = .ok h.templates := by
    have hactive : r.manager.active.settings = h.settings := hsettings.symm
    rw [hactive, hcompile]
  obtain ⟨m', hanswer, hworld⟩ := Managed.answer_of_new (x := fun h => authenticate h r.matcher username password) hnew
    hcompile' hopen (hsame ▸ hrun) "authentication"
  have hprogram : (Login.onManager (Managed.answer "authentication" fun h =>
      authenticate h r.matcher username password)).perform r = (.ok granted, { r with manager := m' }) := by
    rw [Login.onManager, Session.perform_within, hanswer]
  have hgrant : ((Login.grant (some username) (some password)).perform r).1 = .ok granted ∧
      ((Login.grant (some username) (some password)).perform r).2.manager.world.events = ch.world.events := by
    simp only [Login.grant, hname, hword]
    rw [Session.perform_bind_of_ok (Session.perform_get r), Session.perform_bind_of_ok hprogram]
    -- the message at the end is no request
    have hevents : m'.world.events = ch.world.events := congrArg World.events hworld
    rcases granted with _ | g
    · exact ⟨rfl, hevents⟩
    · exact ⟨rfl, hevents⟩
  rw [Login.authenticate, Session.perform_bind_of_ok (Prod.ext hgrant.1 rfl)]
  exact ⟨rfl, hgrant.2⟩

end DirectoryLogin

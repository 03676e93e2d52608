import DirectoryLogin.Proofs.Manager.Regular
/-!
# The Steps of the Manager without Faults

What every step of a regular manager comes to. No step fails of its own: opening fails as the directory decides, and
new settings may be rejected.

- `Managed.acquire_run`: a handle for the active snapshot, open, or the failure to open one.
- `Managed.release_run`, `Managed.close_run`: the mutex is free afterwards.
- `Managed.reconfigure_run`: settings are rejected without a trace, or they are the active ones.
-/

namespace DirectoryLogin

namespace Manager

variable {m m' : Manager} {id : HandleId}

/-! ## §1 Closing -/

/-- The manager after a handle has been closed. -/
def closed (m : Manager) (id : HandleId) : Manager :=
  match m.connection? id with
  | none => m
  | some c =>
    { m.setConnection id none with
      world := (m.world.updateWire c.wire fun wire => { wire with isOpen := false }).sent .unbind c.wire .unbind }

/-- The manager after some handles have been closed. -/
def closedAll (m : Manager) (ids : List HandleId) : Manager :=
  ids.foldl closed m

/-- Closing concerns handles and the world only. -/
theorem closed_rest (m : Manager) (id : HandleId) :
    m.closed id = { m with handles := (m.closed id).handles, world := (m.closed id).world } := by
  unfold closed
  split
  · rfl
  · rfl

theorem closedAll_rest (m : Manager) (ids : List HandleId) :
    m.closedAll ids = { m with handles := (m.closedAll ids).handles, world := (m.closedAll ids).world } := by
  induction ids generalizing m with
  | nil => rfl
  | cons id rest ih =>
    have hstep : m.closedAll (id :: rest) = (m.closed id).closedAll rest := rfl
    rw [hstep]
    refine (ih (m.closed id)).trans ?_
    rw [closed_rest m id]

theorem closedAll_active (m : Manager) (ids : List HandleId) : (m.closedAll ids).active = m.active := by
  rw [closedAll_rest]

theorem closedAll_isLocked (m : Manager) (ids : List HandleId) : (m.closedAll ids).isLocked = m.isLocked := by
  rw [closedAll_rest]

theorem Regular.closed (hm : m.Regular) (id : HandleId) : (m.closed id).Regular := by
  unfold Manager.closed
  rcases hc : m.connection? id with _ | c
  · exact hm
  obtain ⟨h, hid, hc⟩ := of_connection?_eq_some hc
  have hfollows : World.Follows c.wire m.world
      ((m.world.updateWire c.wire fun wire => { wire with isOpen := false }).sent .unbind c.wire .unbind) :=
    trans_of (World.Follows _) (.updateWire _ _) (.sent _ _ _)
  refine hm.ofConnection hid hfollows.directory (hfollows.quiet hm.quiet) ⟨(hm.handle id h hid).templates, ?_⟩ ?_
  · rintro _ ⟨⟩
  · -- the other handles have other wires, and those are as they were
    intro other d hne hd
    have hdifferent : d.wire ≠ c.wire := by
      intro hsame
      exact hne (hm.wires id other c d (by rw [connection?_of_handle hid, hc]) hd hsame.symm)
    exact ⟨hfollows.others _ hdifferent, by rintro _ ⟨⟩⟩

theorem Regular.closedAll (hm : m.Regular) (ids : List HandleId) : (m.closedAll ids).Regular := by
  induction ids generalizing m with
  | nil => exact hm
  | cons id rest ih => exact ih (hm.closed id)

end Manager

namespace Managed

open Manager

variable {α : Type} {m m' : Manager} {id : HandleId}

theorem perform_closeConnection (hquiet : m.world.faults = []) (id : HandleId) :
    (closeConnection id).perform m = (.ok (), m.closed id) := by
  rw [closeConnection, Session.perform_bind_of_ok (Session.perform_get m), Manager.closed]
  rcases hc : m.connection? id with _ | c
  · rfl
  · have hclose : (onConnection id Exchange.close).perform m =
        (.ok (), { m.setConnection id (some { c with bound := none, tlsStarted := false }) with
          world := (m.world.updateWire c.wire fun wire => { wire with isOpen := false }).sent .unbind c.wire
            .unbind }) := by
      simp only [perform_onConnection, hc, Exchange.close_eq, World.unbindWire_eq, hquiet, Fault.strike, Fault.verdict]
      rfl
    -- what closing has done to the connection does not matter, since the handle forgets it
    have hforget (c' : Connection) (w : World) :
        Manager.setConnection { m.setConnection id (some c') with world := w } id none =
          { m.setConnection id none with world := w } := by
      simp only [Manager.setConnection, updateHandle, List.modify_modify_eq]
      rfl
    simp only [Option.isNone_some, Bool.false_eq_true, if_false]
    rw [Session.perform_bind, Session.perform_rescue, hclose]
    exact congrArg (Prod.mk _) (hforget _ _)

theorem perform_forM_closeConnection (hm : m.Regular) (ids : List HandleId) :
    (ids.forM closeConnection).perform m = (.ok ⟨⟩, m.closedAll ids) := by
  induction ids generalizing m with
  | nil => rfl
  | cons id rest ih =>
    have hcons : (id :: rest).forM closeConnection = (closeConnection id >>= fun _ => rest.forM closeConnection) := rfl
    rw [hcons, Session.perform_bind_of_ok (perform_closeConnection hm.quiet id), ih (hm.closed id)]
    rfl

/-! ## §2 Acquiring -/

theorem perform_lock (hunlocked : m.isLocked = false) : lock.perform m = (.ok (), { m with isLocked := true }) := by
  rw [lock, Session.perform_bind_of_ok (Session.perform_get m), hunlocked]
  rfl

theorem perform_unlock (hlocked : m.isLocked = true) : unlock.perform m = (.ok (), { m with isLocked := false }) := by
  rw [unlock, Session.perform_bind_of_ok (Session.perform_get m), hlocked]
  rfl

theorem perform_newHandle {snapshot : Snapshot} {templates : Templates}
    (htemplates : Templates.compile snapshot.settings = .ok templates) (pooled : Bool) (m : Manager) :
    (newHandle snapshot pooled).perform m =
      (.ok m.handles.length,
        { m with handles := m.handles ++ [{ snapshot := snapshot, pooled := pooled, templates := templates }] }) := by
  have hcreate : Handle.create snapshot pooled =
      .ok { snapshot := snapshot, pooled := pooled, templates := templates } := by
    rw [Handle.create, htemplates]
    rfl
  rw [newHandle, hcreate]
  rfl

/-- A new handle is what it was asked to be. -/
theorem newHandle_run (hm : m.Regular) {snapshot : Snapshot} {templates : Templates}
    (htemplates : Templates.compile snapshot.settings = .ok templates) (pooled : Bool) :
    ∃ id m' h, (newHandle snapshot pooled).perform m = (.ok id, m') ∧ m'.Regular ∧ m'.handle? id = some h ∧
      h.snapshot = snapshot ∧ h.pooled = pooled ∧ m'.isLocked = m.isLocked :=
  ⟨_, _, _, perform_newHandle htemplates pooled m, hm.ofNewHandle rfl htemplates, List.getElem?_concat_length, rfl,
    rfl, rfl⟩

/-- A handle that passed the comparison of snapshots, and that is kept, may be shared. -/
theorem serving_of_kept (hm : m.Regular) (hkept : m.shared = some id ∨ m.ready = some id)
    (hsnapshot : (m.handle? id).any (·.snapshot == m.active) = true) : m.Serving id false := by
  obtain ⟨h, hid, hpooled⟩ := hm.kept id hkept
  rw [hid, Option.any_some] at hsnapshot
  exact ⟨h, hid, eq_of_beq hsnapshot, hpooled⟩

/-- One handle is shared from now on, and none is kept ready. -/
theorem regular_of_shared (hm : m.Regular) (hserving : m.Serving id false) :
    Regular { m with shared := some id, ready := none } := by
  refine hm.ofKept (some id) none fun other hkept => ?_
  rcases hkept with heq | heq
  · cases heq
    obtain ⟨h, hid, -, hpooled⟩ := hserving
    exact ⟨h, hid, hpooled⟩
  · cases heq

theorem shareNew_run (hm : m.Regular) :
    ∃ id m', (shareNew m.active).perform m = (.ok id, m') ∧ m'.Regular ∧ m'.Serving id false ∧
      m'.active = m.active ∧ m'.isLocked = m.isLocked := by
  rw [shareNew, Session.perform_bind_of_ok (Session.perform_get m),
    Session.perform_bind_of_ok (Session.perform_set m _)]
  rcases hready : m.readyFor? m.active with _ | id
  · -- there is none for the active snapshot, so one is made
    obtain ⟨templates, htemplates⟩ := hm.compiled
    have hnew : Regular { m with
        handles := m.handles ++ [{ snapshot := m.active, pooled := false, templates := templates }] } :=
      hm.ofNewHandle rfl htemplates
    have hserving : Serving { m with
        handles := m.handles ++ [{ snapshot := m.active, pooled := false, templates := templates }] }
        m.handles.length false := ⟨_, List.getElem?_concat_length, rfl, rfl⟩
    dsimp only
    rw [Session.perform_bind_of_ok (perform_newHandle htemplates false _)]
    have hshared := regular_of_shared hnew hserving
    exact ⟨_, _, rfl, hshared, hserving, rfl, rfl⟩
  · -- the one that is ready was made for the active snapshot
    obtain ⟨hkept, hsnapshot⟩ := Option.filter_eq_some_iff.mp hready
    have hserving := serving_of_kept hm (.inr hkept) hsnapshot
    have hshared := regular_of_shared hm hserving
    exact ⟨id, _, rfl, hshared, hserving, rfl, rfl⟩

theorem sharedHandle_run (hm : m.Regular) :
    ∃ id m', (sharedHandle m.active).perform m = (.ok id, m') ∧ m'.Regular ∧ m'.Serving id false ∧
      m'.active = m.active ∧ m'.isLocked = m.isLocked := by
  rw [perform_sharedHandle]
  rcases hshared : m.sharedFor? m.active with _ | id
  · have hactive := m.closedAll_active m.shared.toList
    have hlocked := m.closedAll_isLocked m.shared.toList
    obtain ⟨id, m', hrun, hm', hserving, hactive', hlocked'⟩ := shareNew_run (hm.closedAll m.shared.toList)
    rw [hactive] at hrun hactive'
    dsimp only
    rw [Session.perform_bind_of_ok (perform_forM_closeConnection hm m.shared.toList)]
    exact ⟨id, m', hrun, hm', hserving, hactive', hlocked'.trans hlocked⟩
  · obtain ⟨hkept, hsnapshot⟩ := Option.filter_eq_some_iff.mp hshared
    exact ⟨id, m, rfl, hm, serving_of_kept hm (.inl hkept) hsnapshot, rfl, rfl⟩

/-- **A handle to be opened** is for the active snapshot, and the mutex is held for a shared one. -/
theorem takeHandle_run (hm : m.Regular) (hunlocked : m.isLocked = false) :
    ∃ id m' pooled, takeHandle.perform m = (.ok id, m') ∧ m'.Regular ∧ m'.Serving id pooled ∧
      m'.active = m.active ∧ m'.isLocked = !pooled := by
  rw [takeHandle, Session.perform_bind_of_ok (Session.perform_get m)]
  rcases hpool : m.pool with _ | pool
  · -- whoever has the shared handle holds the mutex
    obtain ⟨id, m', hrun, hm', hserving, hactive, hlocked⟩ := sharedHandle_run (hm.ofLock true)
    dsimp only
    rw [Session.perform_bind_of_ok (perform_lock hunlocked), Session.perform_onFailure]
    simp only at hrun
    rw [hrun]
    exact ⟨id, m', false, rfl, hm', hserving, hactive, hlocked⟩
  · dsimp only
    rcases hpop : pool.pop? with _ | ⟨id, rest⟩
    · obtain ⟨templates, htemplates⟩ := hm.compiled
      obtain ⟨id, m', h, hrun, hm', hid, hsnapshot, hpooled, hlocked⟩ := newHandle_run hm htemplates true
      have hstays := newHandle_stays m.active true m
      rw [hrun] at hstays
      have hactive : m'.active = m.active := hstays.active
      exact ⟨id, m', true, hrun, hm', ⟨h, hid, hsnapshot.trans hactive.symm, hpooled⟩, hactive,
        hlocked.trans hunlocked⟩
    · -- whatever waits in the pool may be handed out
      have hidle (other : HandleId) (hmem : other ∈ id :: rest.items) : m.Serving other true := by
        rw [← Pool.items_of_pop? hpop] at hmem
        obtain ⟨hcurrent, hpooled⟩ := hm.idle pool hpool other hmem
        exact serving_iff hcurrent hpooled
      refine ⟨id, _, true, rfl, hm.ofPool ?_, hidle id List.mem_cons_self, rfl, hunlocked⟩
      rintro _ ⟨⟩ other hmem
      exact hidle other (List.mem_cons_of_mem _ hmem)

/-- How opening the connection of a handle ends. -/
inductive OpenRun (id : HandleId) (h : Handle) (m : Manager) : Except Failure Unit × Manager → Prop
  | opened (m' : Manager) (c : Connection) (hm' : m'.Regular) (hc : m'.connection? id = some c) :
    OpenRun id h m (.ok (), m')
  | failed (m' : Manager) (e : Failure) (hm' : m'.Regular)
    (houtcome : Connection.establishOutcome m.world.directory m.connector m.tls h.settings = .error e) :
    OpenRun id h m (.error e, m')

theorem openHandle_run (hm : m.Regular) {h : Handle} (hid : m.handle? id = some h) (hsnapshot : h.snapshot = m.active) :
    OpenRun id h m ((openHandle id).perform m) := by
  rw [perform_openHandle hid]
  have hextends := Connection.establish_extends m.connector m.tls h.settings m.world
  rcases Connection.establish_run m.connector m.tls h.settings hm.quiet with
    ⟨c, w, hrun, hestablished⟩ | ⟨e, w, hrun, houtcome⟩
  · -- the connection is new: its wire is behind the ones there were
    rw [hrun] at hextends ⊢
    obtain ⟨_, w₀, -, hbefore, hopened⟩ := Connection.establish_opened hrun
    have hnew : m.world.wires.length < c.wire := by
      rw [hopened.wire]
      exact Nat.lt_succ_of_le hbefore.length
    refine .opened _ c (hm.ofEstablished hid hsnapshot hextends hnew hestablished) ?_
    have hsame : Manager.handle? { m.setConnection id (some c) with world := w } id =
        some { h with connection := some c } := by
      refine (handle?_setConnection m id id (some c)).trans ?_
      rw [if_pos rfl, hid]
      rfl
    rw [connection?_of_handle hsame]
  · -- nothing is stored, and the world has only moved on
    rw [hrun] at hextends ⊢
    exact .failed _ e (hm.ofWorld hextends) houtcome

theorem openHandle_isLocked (id : HandleId) : (openHandle id).Respects fun m m' => m'.isLocked = m.isLocked := by
  intro m
  rcases hid : m.handle? id with _ | h
  · rw [perform_openHandle_of_none hid]
  · rw [perform_openHandle hid]
    rcases (Connection.establish m.connector m.tls h.settings).perform m.world with ⟨e | c, w⟩
    · rfl
    · rfl

/-- The settings choose how connections are opened. -/
theorem chosen_eq (hm : m.Regular) (hm' : m'.Regular) (hregistry : m'.registry = m.registry)
    (hsettings : m'.active.settings = m.active.settings) : m'.connector = m.connector ∧ m'.tls = m.tls := by
  obtain ⟨notes, hchosen⟩ := hm.chosen
  obtain ⟨notes', hchosen'⟩ := hm'.chosen
  rw [hregistry, hsettings, hchosen, Except.ok.injEq, Registry.Collaborators.mk.injEq] at hchosen'
  exact ⟨hchosen'.1.symm, hchosen'.2.1.symm⟩

/-- How acquiring a handle ends: the mutex is held if the handle is the shared one, and not held after a failure. -/
inductive AcquireRun (m : Manager) : Except Failure HandleId × Manager → Prop
  | opened (m' : Manager) (id : HandleId) (c : Connection) (pooled : Bool) (hm' : m'.Regular)
    (hserving : m'.Serving id pooled) (hc : m'.connection? id = some c) (hlocked : m'.isLocked = !pooled) :
    AcquireRun m (.ok id, m')
  | failed (m' : Manager) (e : Failure) (hm' : m'.Regular) (hunlocked : m'.isLocked = false)
    (houtcome : Connection.establishOutcome m.world.directory m.connector m.tls m.active.settings = .error e) :
    AcquireRun m (.error e, m')

theorem unlock_run {pooled : Bool} (hm : m.Regular) (hserving : m.Serving id pooled) (hlocked : m.isLocked = !pooled) :
    ∃ m', (do if !(← get).isPooled id then unlock : Managed Unit).perform m = (.ok (), m') ∧ m'.Regular ∧
      m'.isLocked = false := by
  rw [Session.perform_bind_of_ok (Session.perform_get m), hserving.isPooled]
  cases pooled with
  | true => exact ⟨m, rfl, hm, hlocked⟩
  | false =>
    exact ⟨_, perform_unlock hlocked, hm.ofLock false, rfl⟩

/-- **Acquiring a handle** opens it, or fails as opening for the active settings does. -/
theorem acquire_run (hm : m.Regular) (hunlocked : m.isLocked = false) : AcquireRun m (acquire.perform m) := by
  obtain ⟨id, m₁, pooled, htake, hm₁, hserving, hactive, hlocked⟩ := takeHandle_run hm hunlocked
  have hstays := takeHandle_stays m
  rw [htake] at hstays
  rw [acquire, Session.perform_bind_of_ok htake, Session.perform_bind_of_ok (Session.perform_get m₁)]
  rcases hc : m₁.connection? id with _ | c
  · have ⟨h, hid, hsnapshot, _⟩ := hserving
    have hopen := openHandle_run hm₁ hid hsnapshot
    have hstays' := openHandle_stays id m₁
    have hsame := openHandle_isLocked id m₁
    simp only [Option.isNone_none, if_true]
    rw [Session.perform_bind, Session.perform_onFailure]
    rcases hrun : (openHandle id).perform m₁ with ⟨result, m₂⟩
    rw [hrun] at hopen hstays' hsame
    have hserving₂ := hserving.stays hstays'
    have hlocked₂ : m₂.isLocked = !pooled := hsame.trans hlocked
    cases hopen with
    | opened _ c hm₂ hc => exact .opened m₂ id c pooled hm₂ hserving₂ hc hlocked₂
    | failed _ e hm₂ houtcome =>
      -- whoever gets no handle does not keep the mutex
      have hordinary := Connection.establishOutcome_failsOrdinarily _ _ _ _ e houtcome
      obtain ⟨m₃, hunlock, hm₃, hunlocked₃⟩ := unlock_run hm₂ hserving₂ hlocked₂
      obtain ⟨hconnector, htls⟩ := chosen_eq hm hm₁ hstays.registry (congrArg Snapshot.settings hactive)
      have hsettings : h.settings = m.active.settings := congrArg Snapshot.settings (hsnapshot.trans hactive)
      rw [hstays.directory, hconnector, htls, hsettings] at houtcome
      simp only [hordinary, if_true, hunlock]
      exact .failed m₃ e hm₃ hunlocked₃ houtcome
  · exact .opened m₁ id c pooled hm₁ hserving hc hlocked

/-! ## §3 Giving back -/

/-- **Giving a handle back** keeps it, or closes it, and frees the mutex. -/
theorem release_run {pooled : Bool} (hm : m.Regular) (hserving : m.Serving id pooled) (hlocked : m.isLocked = !pooled) :
    ∃ m', (release id).perform m = (.ok (), m') ∧ m'.Regular ∧ m'.isLocked = false := by
  rw [release, Session.perform_bind_of_ok (Session.perform_get m), hserving.isPooled, hserving.isCurrent]
  cases pooled with
  | true =>
    simp only [if_true]
    -- without room in the pool, or without a pool, the handle is closed
    rcases hpush : m.pool.bind (·.push? id) with _ | pool'
    · exact ⟨m.closed id, perform_closeConnection hm.quiet id, hm.closed id, by rw [closed_rest]; exact hlocked⟩
    · obtain ⟨pool, hpool, hpush⟩ := Option.bind_eq_some_iff.mp hpush
      refine ⟨_, rfl, hm.ofPool ?_, hlocked⟩
      rintro _ ⟨⟩ other hmem
      rw [Pool.items_of_push? hpush] at hmem
      rcases List.mem_cons.mp hmem with rfl | hold
      · exact hserving
      · obtain ⟨hcurrent, hpooled⟩ := hm.idle pool hpool other hold
        exact serving_iff hcurrent hpooled
  | false =>
    exact ⟨_, perform_unlock hlocked, hm.ofLock false, rfl⟩

theorem close_run {pooled : Bool} (hm : m.Regular) (hserving : m.Serving id pooled) (hlocked : m.isLocked = !pooled) :
    ∃ m', (close id).perform m = (.ok (), m') ∧ m'.Regular ∧ m'.isLocked = false := by
  have hstays := closeConnection_stays id m
  rw [perform_closeConnection hm.quiet id] at hstays
  have hlocked' : (m.closed id).isLocked = !pooled := by
    rw [closed_rest]
    exact hlocked
  rw [close, Session.perform_bind_of_ok (perform_closeConnection hm.quiet id)]
  exact unlock_run (hm.closed id) (hserving.stays hstays) hlocked'

theorem drainPool_run (hm : m.Regular) :
    ∃ m', drainPool.perform m = (.ok (), m') ∧ m'.Regular ∧ m'.isLocked = m.isLocked := by
  rw [drainPool, Session.perform_bind_of_ok (Session.perform_get m)]
  rcases hpool : m.pool with _ | pool
  · exact ⟨m, rfl, hm, rfl⟩
  · have hempty : Regular { m with pool := some { pool with items := [] } } := by
      refine hm.ofPool ?_
      rintro _ ⟨⟩ other hmem
      cases hmem
    refine ⟨_, perform_forM_closeConnection hempty pool.toList, hempty.closedAll _, ?_⟩
    rw [closedAll_isLocked]

/-! ## §4 Life of the manager -/

/-- Closing the shared handle and the one that is kept ready. -/
theorem closeShared_run (hm : m.Regular) (hunlocked : m.isLocked = false) :
    ∃ m', closeShared.perform m = (.ok ⟨⟩, m') ∧ m'.Regular ∧ m'.isLocked = false := by
  have hnone : Regular { m with shared := none, ready := none, isLocked := false } := by
    refine (hm.ofKept none none ?_).ofLock false
    rintro other (heq | heq) <;> cases heq
  rw [closeShared, Session.perform_bind_of_ok (perform_lock hunlocked),
    Session.perform_bind_of_ok (Session.perform_get _), Session.perform_bind_of_ok (Session.perform_set _ _),
    Session.perform_bind_of_ok (perform_forM_closeConnection hnone m.shared.toList)]
  have hclosed := hnone.closedAll m.shared.toList
  refine ⟨_, perform_forM_closeConnection hclosed m.ready.toList, hclosed.closedAll _, ?_⟩
  rw [closedAll_isLocked, closedAll_isLocked]

theorem shutdown_run (hm : m.Regular) (hunlocked : m.isLocked = false) :
    ∃ m', shutdown.perform m = (.ok (), m') ∧ m'.Regular ∧ m'.isLocked = false := by
  obtain ⟨m₁, hclose, hm₁, hunlocked₁⟩ := closeShared_run hm hunlocked
  obtain ⟨m₂, hdrain, hm₂, hlocked₂⟩ := drainPool_run hm₁
  rw [shutdown, Session.perform_bind_of_ok hclose]
  exact ⟨m₂, hdrain, hm₂, hlocked₂.trans hunlocked₁⟩

/-- A message changes nothing that matters. -/
theorem onWorld_say_run (hm : m.Regular) (level : Level) (source : Source) (text : String) :
    ∃ m', (onWorld (World.say level source text)).perform m = (.ok (), m') ∧ m'.Regular ∧ m'.isLocked = m.isLocked :=
  ⟨_, rfl, hm.ofWorld (Connection.say_extends level source text m.world), rfl⟩

theorem start_run (hm : m.Regular) (hunlocked : m.isLocked = false) :
    ∃ m', start.perform m = (.ok (), m') ∧ m'.Regular ∧ m'.isLocked = false := by
  have hacquire := acquire_run hm hunlocked
  rw [start, Session.perform_bind, Session.perform_rescue, Session.perform_bind]
  rcases hrun : acquire.perform m with ⟨result, m₁⟩
  rw [hrun] at hacquire
  cases hacquire with
  | opened _ id c pooled hm₁ hserving hc hlocked =>
    -- the handle that was acquired is given back
    obtain ⟨m₂, hrelease, hm₂, hunlocked₂⟩ := release_run hm₁ hserving hlocked
    exact ⟨m₂, hrelease, hm₂, hunlocked₂⟩
  | failed _ e hm₁ hunlocked₁ houtcome =>
    -- a failure is logged, and nothing else comes of it
    have hordinary := Connection.establishOutcome_failsOrdinarily _ _ _ _ e houtcome
    obtain ⟨m₂, hsay, hm₂, hlocked₂⟩ := onWorld_say_run hm₁ .error .connections
      ("Unable to open directory connection at startup: " ++ e.message)
    have hsay : (say .error ("Unable to open directory connection at startup: " ++ e.message)).perform m₁ =
        (.ok (), m₂) := hsay
    simp only [hordinary, if_true, Session.perform_bind_of_ok hsay]
    exact ⟨m₂, rfl, hm₂, hlocked₂.trans hunlocked₁⟩

/-! ## §5 New settings -/

theorem perform_forM_note (notes : List Message) (m : Manager) :
    (notes.forM fun note => onWorld (modify (·.write note))).perform m =
      (.ok ⟨⟩, { m with world := { m.world with journal := m.world.journal ++ notes } }) := by
  induction notes generalizing m with
  | nil =>
    rw [List.append_nil]
    rfl
  | cons note rest ih =>
    have hcons : ((note :: rest).forM fun note => onWorld (modify (·.write note))) =
        (onWorld (modify (·.write note)) >>= fun _ => rest.forM fun note => onWorld (modify (·.write note))) := rfl
    have hnote : (onWorld (modify (·.write note))).perform m = (.ok ⟨⟩, { m with world := m.world.write note }) := rfl
    rw [hcons, Session.perform_bind_of_ok hnote, ih]
    simp [World.write]

/-- The new settings become the active ones, with one handle that was made for them. -/
theorem regular_activate (hm : m.Regular) {snapshot : Snapshot} {chosen : Registry.Collaborators} {h : Handle}
    (hchosen : m.registry.collaborators snapshot.settings = .ok chosen) (hid : m.handle? id = some h)
    (hsnapshot : h.snapshot = snapshot) (hpooled : h.pooled = snapshot.settings.poolingEnabled) :
    (activate snapshot chosen id m).Regular where
  quiet := hm.quiet
  chosen := ⟨chosen.notes, hchosen⟩
  compiled := ⟨h.templates, hsnapshot ▸ (hm.handle id h hid).templates⟩
  handle := hm.handle
  wires := hm.wires
  idle pool hpool other hmem := by
    obtain ⟨empty, hempty, rfl⟩ := Option.map_eq_some_iff.mp hpool
    have hpooling : snapshot.settings.poolingEnabled = true := by
      unfold Manager.poolFor at hempty
      split at hempty
      · assumption
      · cases hempty
    -- the pool is new, so there is nothing in it but the new handle
    obtain rfl : other = id := by
      rcases Pool.mem_items_push? hmem with rfl | hold
      · rfl
      · rw [Manager.items_of_poolFor hempty] at hold
        cases hold
    have hserving : (activate snapshot chosen other m).Serving other true :=
      ⟨h, hid, hsnapshot, hpooled.trans hpooling⟩
    exact ⟨hserving.isCurrent, hserving.isPooled⟩
  kept other hkept := by
    rcases hkept with hshared | hready
    · exact hm.kept other (.inl hshared)
    · have hready : (if snapshot.settings.poolingEnabled then m.ready else some id) = some other := hready
      split at hready
      · exact hm.kept other (.inr hready)
      · rename_i hpooling
        cases hready
        exact ⟨h, hid, hpooled.trans (Bool.eq_false_iff.mpr hpooling)⟩

theorem retire_run (hm : m.Regular) (hunlocked : m.isLocked = false) (pool : Option (Pool HandleId)) (s : Settings) :
    ∃ m', (retire pool s).perform m = (.ok (), m') ∧ m'.Regular ∧ m'.isLocked = false := by
  have hclosed := hm.closedAll (pool.elim [] Pool.toList)
  have hunlocked₁ := (m.closedAll_isLocked (pool.elim [] Pool.toList)).trans hunlocked
  rw [retire, Session.perform_bind_of_ok (perform_forM_closeConnection hm _)]
  by_cases hpooling : s.poolingEnabled = true
  · obtain ⟨m₂, hclose, hm₂, hunlocked₂⟩ := closeShared_run hclosed hunlocked₁
    simp only [hpooling, if_true]
    rw [Session.perform_bind_of_ok hclose]
    exact ⟨_, rfl, hm₂.ofWorld (Connection.say_extends _ _ _ _), hunlocked₂⟩
  · simp only [hpooling]
    exact ⟨_, rfl, hclosed.ofWorld (Connection.say_extends _ _ _ _), hunlocked₁⟩

/-- How new settings are received. -/
inductive ReconfigureRun (snapshot : Snapshot) (m : Manager) : Except Failure HandleId × Manager → Prop
  | accepted (m' : Manager) (id : HandleId) (hm' : m'.Regular) (hunlocked : m'.isLocked = false)
    (hactive : m'.active = snapshot) : ReconfigureRun snapshot m (.ok id, m')
  | rejected (m' : Manager) (e : Failure) (hm' : m'.Regular) (hunlocked : m'.isLocked = false)
    (hactive : m'.active = m.active) : ReconfigureRun snapshot m (.error e, m')

theorem reconfigure_run (hm : m.Regular) (hunlocked : m.isLocked = false) (snapshot : Snapshot) :
    ReconfigureRun snapshot m ((reconfigure snapshot).perform m) := by
  rw [perform_reconfigure]
  rcases hchosen : m.registry.collaborators snapshot.settings with e | chosen
  · exact .rejected m e hm hunlocked rfl
  -- from here on notes have been written, and the rest is as it was
  have hextends : World.Extends m.world { m.world with journal := m.world.journal ++ chosen.notes } :=
    ⟨rfl, Nat.le_refl _, fun _ _ => rfl, id⟩
  have hnoted := hm.ofWorld hextends
  dsimp only
  rw [Session.perform_bind_of_ok (perform_forM_note chosen.notes m)]
  generalize hm₁ : ({ m with world := { m.world with journal := m.world.journal ++ chosen.notes } } : Manager) = m₁
  rw [hm₁] at hnoted
  have hunlocked₁ : m₁.isLocked = false := hm₁ ▸ hunlocked
  have hactive₁ : m₁.active = m.active := hm₁ ▸ rfl
  have hchosen₁ : m₁.registry.collaborators snapshot.settings = .ok chosen := hm₁ ▸ hchosen
  have hstays := newHandle_stays snapshot snapshot.settings.poolingEnabled m₁
  rcases htemplates : Templates.compile snapshot.settings with e | templates
  · -- templates that cannot be compiled are rejected before anything is changed
    have hnew : (newHandle snapshot snapshot.settings.poolingEnabled).perform m₁ = (.error e, m₁) := by
      rw [newHandle, Handle.create, htemplates]
      rfl
    rw [Session.perform_bind_of_error hnew]
    exact .rejected m₁ e hnoted hunlocked₁ hactive₁
  · obtain ⟨id, m₂, h, hnew, hm₂, hid, hsnapshot, hpooled, hlocked₂⟩ :=
      newHandle_run hnoted htemplates snapshot.settings.poolingEnabled
    rw [hnew] at hstays
    rw [Session.perform_bind_of_ok hnew, Session.perform_bind_of_ok (Session.perform_get _),
      Session.perform_bind_of_ok (Session.perform_set _ _)]
    have hchosen₂ : m₂.registry.collaborators snapshot.settings = .ok chosen := hstays.registry ▸ hchosen₁
    -- the snapshot is active now, and all that is left is to close what was idle
    have hactivated := regular_activate hm₂ hchosen₂ hid hsnapshot hpooled
    obtain ⟨m₃, hretire, hm₃, hunlocked₃⟩ :=
      retire_run hactivated (hlocked₂.trans hunlocked₁) m₂.pool snapshot.settings
    have hretired := retire_stays m₂.pool snapshot.settings (activate snapshot chosen id m₂)
    rw [hretire] at hretired
    rw [Session.perform_bind_of_ok hretire]
    exact .accepted m₃ id hm₃ hunlocked₃ hretired.active

end Managed

end DirectoryLogin

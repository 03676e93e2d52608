import DirectoryLogin.Proofs.Connection.StartTls
import DirectoryLogin.Proofs.Manager.Operations
/-!
# The Manager Encrypts First

Only connections that can be used get into handles, and a connection in a handle is only used and ended. So while the
manager is at work, the monitor of phases follows what is sent on every wire. This holds however the operations end, and
whatever they are interrupted by.

- `Manager.Monitored`: what is true at any time of a transcript and the manager it has led to.
- `Manager.Conducts`: what operations of the manager keep, as long as the settings stay the same.
- `Managed.…_conducts`: one lemma for each operation.
- `Managed.reconfigure_resettles`: new settings open no connection.
-/

namespace DirectoryLogin

namespace Manager

open Heard (onWire onWire_append_of_wire onWire_append_of_fresh)

variable {m m' m'' : Manager} {id : HandleId} {c : Connection} {t es : List Heard}

/-! ## §1 Monitored managers -/

/-- The monitor has followed the transcript on every wire, and the wires of the connections in handles can be used. -/
structure Monitored (t : List Heard) (m : Manager) : Prop where
  phases : ∀ n, ∃ p, Phase.new.after (onWire n t) = some p
  wired : ∀ x ∈ t, x.event.wire ≤ m.world.wires.length
  ready : ∀ id c, m.connection? id = some c → c.wire ≤ m.world.wires.length ∧
    ∃ p, Phase.new.after (onWire c.wire t) = some p ∧ p.isReady = true

/-- A manager stays monitored while nothing is sent and no handle gets a connection. -/
theorem Monitored.frame (hm : Monitored t m)
    (hconnection : ∀ id c, m'.connection? id = some c → m.connection? id = some c)
    (hlength : m.world.wires.length ≤ m'.world.wires.length) : Monitored t m' := by
  refine ⟨hm.phases, fun x hx => Nat.le_trans (hm.wired x hx) hlength, fun id c hc => ?_⟩
  obtain ⟨hlow, hready⟩ := hm.ready id c (hconnection id c hc)
  exact ⟨Nat.le_trans hlow hlength, hready⟩

/-- Requests with `P` were sent, and what was monitored before still is. -/
def Guards (P : Request → Prop) (m m' : Manager) : Prop :=
  ∃ es, World.Hears es m.world m'.world ∧ (∀ x ∈ es, P x.event.request) ∧
    ∀ t, Monitored t m → Monitored (t ++ es) m'

instance (P : Request → Prop) : IsPreorder Manager (Guards P) where
  refl _ := ⟨[], .nil rfl rfl, List.forall_mem_nil _, fun t hm => by rwa [List.append_nil]⟩
  trans _ _ _ := by
    rintro ⟨es, hes, hall, hkeeps⟩ ⟨es', hes', hall', hkeeps'⟩
    refine ⟨es ++ es', hes.trans hes', List.forall_mem_append.mpr ⟨hall, hall'⟩, fun t hm => ?_⟩
    rw [← List.append_assoc]
    exact hkeeps' _ (hkeeps t hm)

namespace Guards

variable {P : Request → Prop}

/-- Nothing is sent, and no handle gets a connection. -/
theorem ofFrame (hconnection : ∀ id c, m'.connection? id = some c → m.connection? id = some c)
    (hlength : m.world.wires.length ≤ m'.world.wires.length) (hevents : m'.world.events = m.world.events)
    (hfaults : m'.world.faults = m.world.faults) : Guards P m m' := by
  refine ⟨[], .nil hevents hfaults, List.forall_mem_nil _, fun t hm => ?_⟩
  rw [List.append_nil]
  exact hm.frame hconnection hlength

/-- A connection is used or ended; its handle keeps it, or gives it up. -/
theorem ofService (hc : m.connection? id = some c) {c' : Connection} {w : World}
    (hserves : Channel.Converses (fun request => request.isService = true) ⟨c, m.world⟩ ⟨c', w⟩)
    (hP : ∀ request, request.isService = true → P request)
    (hconnection : ∀ other d, m'.connection? other = some d → d = c' ∨ m.connection? other = some d)
    (hworld : m'.world = w) : Guards P m m' := by
  subst hworld
  obtain ⟨hwire, hlength, es, hes, hall⟩ := hserves
  dsimp only at hwire hlength hes hall
  refine ⟨es, hes, fun x hx => hP _ (hall x hx).2, fun t hm => ?_⟩
  obtain ⟨hlow, p, hp, hready⟩ := hm.ready id c hc
  have honWire (n : Nat) : onWire n (t ++ es) = if n = c.wire then onWire n t ++ es else onWire n t :=
    onWire_append_of_wire (fun x hx => (hall x hx).1) n
  -- the wire was ready and is ready, and on the other wires nothing was sent
  obtain ⟨q, hq, hready'⟩ := Phase.after_of_isReady hready fun x hx => (hall x hx).2
  have hafter : Phase.new.after (onWire c.wire (t ++ es)) = some q := by
    rw [honWire, if_pos rfl, Phase.after_append_of_some hp, hq]
  refine ⟨fun n => ?_, fun x hx => ?_, fun other d hd => ?_⟩
  · by_cases hn : n = c.wire
    · exact ⟨q, hn ▸ hafter⟩
    · rw [honWire, if_neg hn]
      exact hm.phases n
  · rw [hlength]
    rcases List.mem_append.mp hx with hx | hx
    · exact hm.wired x hx
    · rw [(hall x hx).1]
      exact hlow
  · rw [hlength]
    by_cases hn : d.wire = c.wire
    · rw [hn]
      exact ⟨hlow, q, hafter, hready'⟩
    · rcases hconnection other d hd with rfl | hd
      · exact absurd hwire hn
      · rw [honWire, if_neg hn]
        exact hm.ready other d hd

/-- Connections are opened, and handles get only such that can be used. -/
theorem ofVentures {b : Bool} (h : World.Ventures b es m.world m'.world)
    (hconnection : ∀ other d, m'.connection? other = some d → m.connection? other = some d ∨
      m.world.wires.length < d.wire ∧ d.wire ≤ m'.world.wires.length ∧
        ∃ p, Phase.new.after (onWire d.wire es) = some p ∧ p.isReady = true) : Guards (·.OpensWith b) m m' := by
  refine ⟨es, h.hears, h.opens, fun t hm => ?_⟩
  have hlength := h.length
  -- nothing was sent on an old wire, and nothing had been sent on a new one
  have honWire := onWire_append_of_fresh hm.wired fun x hx => (h.fresh x hx).1
  refine ⟨fun n => ?_, fun x hx => ?_, fun other d hd => ?_⟩
  · rw [honWire]
    split
    · exact hm.phases n
    · exact h.phases n
  · rcases List.mem_append.mp hx with hx | hx
    · exact Nat.le_trans (hm.wired x hx) hlength
    · exact (h.fresh x hx).2
  · rw [honWire]
    rcases hconnection other d hd with hd | ⟨hlow, hhigh, hready⟩
    · obtain ⟨hwired, hready⟩ := hm.ready other d hd
      rw [if_pos hwired]
      exact ⟨Nat.le_trans hwired hlength, hready⟩
    · rw [if_neg (Nat.not_le_of_gt hlow)]
      exact ⟨hhigh, hready⟩

/-- What was sent can be read off the worlds before and after. -/
theorem transcribed (h : Guards P m m') :
    m'.world.events = m.world.events ++ (m.world.heard m'.world).map (·.event) ∧
      (∀ x ∈ m.world.heard m'.world, P x.event.request) ∧
      ∀ t, Monitored t m → Monitored (t ++ m.world.heard m'.world) m' := by
  obtain ⟨es, hes, hall, hkeeps⟩ := h
  rw [hes.heard_eq]
  exact ⟨hes.events, hall, hkeeps⟩

end Guards

/-! ## §2 What operations keep -/

/-- The manager goes on for the same settings. What is sent depends on them only through whether connections are to be
encrypted. -/
structure Conducts (P : Bool → Request → Prop) (m m' : Manager) : Prop where
  tls : m'.tls = m.tls
  active : m'.active = m.active
  guards : Guards (P m.tls.isSome) m m'

instance (P : Bool → Request → Prop) : IsPreorder Manager (Conducts P) where
  refl m := ⟨rfl, rfl, refl_of _ m⟩
  trans _ _ _ h g := ⟨g.tls.trans h.tls, g.active.trans h.active, trans_of _ h.guards (h.tls ▸ g.guards)⟩

theorem Conducts.ofFrame {P : Bool → Request → Prop} (htls : m'.tls = m.tls) (hactive : m'.active = m.active)
    (hconnection : ∀ id c, m'.connection? id = some c → m.connection? id = some c)
    (hwires : m'.world.wires = m.world.wires) (hevents : m'.world.events = m.world.events)
    (hfaults : m'.world.faults = m.world.faults) : Conducts P m m' :=
  ⟨htls, hactive, .ofFrame hconnection (hwires ▸ Nat.le_refl _) hevents hfaults⟩

end Manager

namespace Managed

open Manager

variable {α : Type} {m : Manager} {id : HandleId} {P : Bool → Request → Prop}

/-! ## §3 Operations that open no connection -/

theorem books_conducts {f : Manager → Manager} (htls : ∀ m, (f m).tls = m.tls) (hactive : ∀ m, (f m).active = m.active)
    (hhandles : ∀ m, (f m).handles = m.handles) (hworld : ∀ m, (f m).world = m.world) :
    Session.Respects (Conducts P) (modify f) := by
  refine .modify fun m => .ofFrame (htls m) (hactive m) (fun id c hc => ?_) ?_ ?_ ?_
  · rwa [Manager.connection?, Manager.handle?, hhandles] at hc
  all_goals rw [hworld]

theorem write_conducts (message : Message) : (onWorld (modify (·.write message))).Respects (Conducts P) :=
  fun _ => .ofFrame rfl rfl (fun _ _ h => h) rfl rfl rfl

theorem lock_conducts : lock.Respects (Conducts P) := by
  refine .bind_get fun m => ?_
  split
  · exact refl_of _ m
  · exact .ofFrame rfl rfl (fun _ _ h => h) rfl rfl rfl

theorem unlock_conducts : unlock.Respects (Conducts P) := by
  refine .bind_get fun m => ?_
  split
  · exact refl_of _ m
  · exact .ofFrame rfl rfl (fun _ _ h => h) rfl rfl rfl

theorem unlockFor_conducts (id : HandleId) : (unlockFor id).Respects (Conducts P) := by
  refine .bind_get fun m => ?_
  split
  · exact unlock_conducts m
  · exact refl_of _ m

theorem newHandle_conducts (snapshot : Snapshot) (pooled : Bool) :
    (newHandle snapshot pooled).Respects (Conducts P) := by
  intro m
  rcases newHandle_makes snapshot pooled m with ⟨h, hrun, -, -, hclosed⟩ | ⟨e, he, hrun⟩
  · rw [hrun]
    refine .ofFrame rfl rfl (fun other c hc => ?_) rfl rfl rfl
    rwa [connection?_newHandle m hclosed other] at hc
  · rw [hrun]
    exact refl_of _ m

theorem shareNew_conducts (snapshot : Snapshot) : (shareNew snapshot).Respects (Conducts P) := by
  intro m
  have hforget : Conducts P m { m with ready := none } := .ofFrame rfl rfl (fun _ _ h => h) rfl rfl rfl
  have hshare (id : HandleId) : Session.Respects (Conducts P) (do
      modify fun m : Manager => { m with shared := some id }
      return id) := .bind (books_conducts (fun _ => rfl) (fun _ => rfl) (fun _ => rfl) fun _ => rfl) fun _ => .pure _
  rw [shareNew, Session.perform_bind_of_ok (Session.perform_get m),
    Session.perform_bind_of_ok (Session.perform_set m _)]
  refine trans_of _ hforget ?_
  rcases m.readyFor? snapshot with _ | id
  · exact Session.Respects.bind (newHandle_conducts snapshot false) hshare _
  · exact Session.Respects.bind (.pure id) hshare _

section Serving

variable (hservice : ∀ encrypted request, request.isService = true → P encrypted request)
include hservice

/-- **Using a connection**, or ending it. -/
theorem onConnection_conducts (id : HandleId) {x : Exchange α}
    (hx : x.Respects (Channel.Converses fun request => request.isService = true)) :
    (onConnection id x).Respects (Conducts P) := by
  intro m
  rw [perform_onConnection]
  rcases hc : m.connection? id with _ | c
  · exact refl_of _ m
  · refine ⟨rfl, rfl, .ofService hc (hx ⟨c, m.world⟩) (hservice _) (fun other d hd => ?_) rfl⟩
    have hd := (connection?_setConnection m id other _).symm.trans hd
    split at hd
    · obtain ⟨_, -, hd⟩ := Option.bind_eq_some_iff.mp hd
      cases hd
      exact .inl rfl
    · exact .inr hd

theorem onHandle_conducts (id : HandleId) {x : Handle → Exchange α}
    (hx : ∀ h, (x h).Respects (Channel.Converses fun request => request.isService = true)) :
    (onHandle id x).Respects (Conducts P) := by
  intro m
  rcases hid : m.handle? id with _ | h
  · rw [perform_onHandle_of_none hid]
    exact refl_of _ m
  · rw [perform_onHandle_of_some hid]
    exact onConnection_conducts hservice id (hx h) m

/-- **Closing a handle** ends its connection. It may keep it, if closing was interrupted. -/
theorem closeConnection_conducts (id : HandleId) : (closeConnection id).Respects (Conducts P) := by
  refine .bind_get fun m => ?_
  split
  · exact refl_of _ m
  -- the handle loses its connection, and the others keep theirs
  have hgone : Session.Respects (Conducts P) (modify fun m : Manager => m.setConnection id none) := by
    refine .modify fun m => .ofFrame rfl rfl (fun other c hc => ?_) rfl rfl rfl
    rw [connection?_setConnection] at hc
    split at hc
    · obtain ⟨_, -, hc⟩ := Option.bind_eq_some_iff.mp hc
      cases hc
    · exact hc
  have hclose : (onConnection id Exchange.close).Respects (Conducts P) :=
    onConnection_conducts hservice id (Exchange.close_converses rfl)
  exact Session.Respects.bind (.rescue_if hclose fun _ _ => write_conducts _) (fun _ => hgone) m

theorem forM_closeConnection_conducts (ids : List HandleId) : (ids.forM closeConnection).Respects (Conducts P) :=
  .forM (closeConnection_conducts hservice) ids

theorem sharedHandle_conducts (snapshot : Snapshot) : (sharedHandle snapshot).Respects (Conducts P) := by
  intro m
  rw [perform_sharedHandle]
  split
  · exact refl_of _ m
  · exact Session.Respects.bind (forM_closeConnection_conducts hservice _) (fun _ => shareNew_conducts snapshot) m

theorem takeHandle_conducts : takeHandle.Respects (Conducts P) := by
  refine .bind_get fun m => ?_
  split
  · split
    · exact .ofFrame rfl rfl (fun _ _ h => h) rfl rfl rfl
    · exact newHandle_conducts _ _ m
  · exact Session.Respects.bind lock_conducts
      (fun _ => .onFailure (sharedHandle_conducts hservice m.active) fun _ => unlock_conducts) m

theorem close_conducts (id : HandleId) : (close id).Respects (Conducts P) := by
  rw [close_eq]
  exact .bind (closeConnection_conducts hservice id) fun _ => unlockFor_conducts id

theorem release_conducts (id : HandleId) : (release id).Respects (Conducts P) := by
  refine .bind_get fun m => ?_
  split
  · split
    · exact .ofFrame rfl rfl (fun _ _ h => h) rfl rfl rfl
    · exact closeConnection_conducts hservice id m
  · split
    · exact Session.Respects.bind (closeConnection_conducts hservice id) (fun _ => unlock_conducts) m
    · exact unlock_conducts m

theorem drainPool_conducts : drainPool.Respects (Conducts P) := by
  refine .bind_get fun m => ?_
  split
  · exact refl_of _ m
  · rename_i pool _
    have hempty : Conducts P m { m with pool := some pool.drain.2 } := .ofFrame rfl rfl (fun _ _ h => h) rfl rfl rfl
    exact trans_of _ hempty (forM_closeConnection_conducts hservice pool.drain.1 _)

theorem closeShared_conducts : closeShared.Respects (Conducts P) := by
  refine .bind lock_conducts fun _ => .bind_get fun m => ?_
  have hforget : Conducts P m { m with shared := none, ready := none, isLocked := false } :=
    .ofFrame rfl rfl (fun _ _ h => h) rfl rfl rfl
  have hclose : Session.Respects (Conducts P)
      (m.shared.toList.forM closeConnection >>= fun _ => m.ready.toList.forM closeConnection) :=
    .bind (forM_closeConnection_conducts hservice _) fun _ => forM_closeConnection_conducts hservice _
  exact trans_of _ hforget (hclose _)

theorem shutdown_conducts : shutdown.Respects (Conducts P) :=
  .bind (closeShared_conducts hservice) fun _ => drainPool_conducts hservice

theorem retire_conducts (pool : Option (Pool HandleId)) (s : Settings) : (retire pool s).Respects (Conducts P) := by
  refine .bind (forM_closeConnection_conducts hservice _) fun _ => ?_
  split
  · exact .bind (closeShared_conducts hservice) fun _ => write_conducts _
  · exact write_conducts _

end Serving

/-! ## §4 Operations that open connections -/

/-- **Opening a handle** gives it a connection that can be used. -/
theorem openHandle_conducts (id : HandleId) : (openHandle id).Respects (Conducts Request.OpensWith) := by
  intro m
  rcases hid : m.handle? id with _ | h
  · rw [perform_openHandle_of_none hid]
    exact refl_of _ m
  rw [perform_openHandle hid]
  -- whether or not the connection is established, what was sent opens wires in order
  rcases hrun : (Connection.establish m.connector m.tls h.settings).perform m.world with ⟨e | c, w⟩
  · obtain ⟨es, hes⟩ := (Connection.establish_ventured m.connector m.tls h.settings).of_perform hrun
    exact ⟨rfl, rfl, .ofVentures hes fun _ _ hd => .inl hd⟩
  · obtain ⟨es, p, hes, hlow, hhigh, hp, hready⟩ := Connection.establish_ventures hrun
    -- only this handle has a new connection, and its wire is ready
    refine ⟨rfl, rfl, .ofVentures hes fun other d hd => ?_⟩
    have hd := (connection?_setConnection m id other _).symm.trans hd
    split at hd
    · obtain ⟨_, -, hd⟩ := Option.bind_eq_some_iff.mp hd
      cases hd
      exact .inr ⟨hlow, hhigh, p, hp, hready⟩
    · exact .inl hd

/-- **Acquiring a handle** opens at most one connection that comes into use. -/
theorem acquire_conducts : acquire.Respects (Conducts Request.OpensWith) := by
  rw [acquire_eq]
  refine .bind (takeHandle_conducts (fun _ _ => .of_isService)) fun id => .bind .get fun m => ?_
  split
  · exact .bind (.onFailure (openHandle_conducts id) fun _ => unlockFor_conducts id) fun _ => .pure _
  · exact .pure _

theorem start_conducts : start.Respects (Conducts Request.OpensWith) := by
  have hopened : Session.Respects (Conducts Request.OpensWith)
      (do return some (← acquire) : Managed (Option HandleId)) :=
    .bind acquire_conducts fun _ => .pure _
  refine .bind (.rescue_if hopened fun _ _ => .bind (write_conducts _) fun _ => .pure _) fun opened => ?_
  split
  · exact release_conducts (fun _ _ => .of_isService) _
  · exact .pure _

section Programs

variable {x : Handle → Exchange α}
  (hx : ∀ h, (x h).Respects (Channel.Converses fun request => request.isService = true))
include hx

theorem attempt_conducts : (attempt x).Respects (Conducts Request.OpensWith) := by
  rw [attempt_eq]
  refine .bind acquire_conducts fun id => .bind
    (.onFailure (onHandle_conducts (fun _ _ => .of_isService) id hx) fun _ => ?_)
    fun a => .bind (release_conducts (fun _ _ => .of_isService) id) fun _ => .pure _
  exact .bind (close_conducts (fun _ _ => .of_isService) id) fun _ => drainPool_conducts (fun _ _ => .of_isService)

theorem attemptTwice_conducts (description : String) :
    (attemptTwice description x).Respects (Conducts Request.OpensWith) :=
  .rescue_if (attempt_conducts hx) fun _ _ => .bind (write_conducts _) fun _ => attempt_conducts hx

end Programs

/-- **What the realm asks of the manager**: a program, tried again on a new connection, and a report. -/
theorem answer_conducts {x : Handle → Exchange (Option α)}
    (hx : ∀ h, (x h).Respects (Channel.Converses fun request => request.isService = true)) (description : String) :
    (answer description x).Respects (Conducts Request.OpensWith) :=
  .rescue_if (attemptTwice_conducts hx description) fun _ _ => .bind (write_conducts _) fun _ => .pure _

end Managed

/-! ## §5 New settings -/

namespace Manager

variable {m m' : Manager}

/-- Connections are encrypted if the active settings say so. -/
def Policed (m : Manager) : Prop :=
  m.tls.isSome = m.active.settings.useStartTls

theorem Conducts.policed {P : Bool → Request → Prop} (h : Conducts P m m') (hm : m.Policed) : m'.Policed := by
  rw [Policed, h.tls, h.active]
  exact hm

/-- The manager may go on for other settings. No connection is opened on the way. -/
structure Resettles (m m' : Manager) : Prop where
  guards : Guards Request.OpensNothing m m'
  policed : m.Policed → m'.Policed

instance : IsPreorder Manager Resettles where
  refl m := ⟨refl_of _ m, id⟩
  trans _ _ _ h g := ⟨trans_of _ h.guards g.guards, fun hm => g.policed (h.policed hm)⟩

theorem Conducts.resettles (h : Conducts (fun _ => Request.OpensNothing) m m') : Resettles m m' :=
  ⟨h.guards, h.policed⟩

/-- Settings choose to encrypt connections if they say so. -/
theorem tls_of_collaborators {registry : Registry} {s : Settings} {chosen : Registry.Collaborators}
    (h : registry.collaborators s = .ok chosen) : chosen.tls.isSome = s.useStartTls :=
  (Registry.of_collaborators_ok h).2

end Manager

namespace Managed

open Manager

/-- **New settings**, whether they are accepted or not. From then on connections are encrypted as the active settings
say. -/
theorem reconfigure_resettles (snapshot : Snapshot) : (reconfigure snapshot).Respects Resettles := by
  have hresettles {α : Type} {x : Managed α} (h : x.Respects (Conducts fun _ => Request.OpensNothing)) :
      x.Respects Resettles := h.mono fun _ _ h => h.resettles
  intro m
  rw [perform_reconfigure]
  rcases hchosen : m.registry.collaborators snapshot.settings with e | chosen
  · exact refl_of _ m
  refine Session.Respects.bind (hresettles (.forM write_conducts _)) (fun _ =>
    .bind (hresettles (newHandle_conducts _ _)) fun id => .bind_get fun m => ?_) m
  -- the moment from which on the new settings count
  have hactivate : Resettles m (activate snapshot chosen id m) :=
    ⟨.ofFrame (fun _ _ h => h) (Nat.le_refl _) rfl rfl, fun _ => tls_of_collaborators hchosen⟩
  have hretire := hresettles (retire_conducts (fun _ _ => .of_isService) m.pool snapshot.settings)
  exact trans_of _ hactivate (Session.Respects.bind hretire (fun _ => .pure id) (activate snapshot chosen id m))

end Managed

end DirectoryLogin

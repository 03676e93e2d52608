import DirectoryLogin.Proofs.Connection.SearchFaults
import DirectoryLogin.Proofs.Manager.Operations
/-!
# The Manager under Faults that Hit Searches

The manager itself never searches. Opening and closing connections, and lending and giving back handles, commute with
the faults that hit nothing but searches.

- `Connection.establish_commutes`: opening a connection.
- `Managed.acquire_commutes`, `Managed.release_commutes`, `Managed.close_commutes`, `Managed.drainPool_commutes`: what
  happens around a program.
-/

namespace DirectoryLogin

open Session (Commutes)

variable {α : Type} {faults : List Fault}

/-! ## §1 Opening connections -/

namespace Connection

open World (Quiet withFaults)

theorem run_commutes {x : Exchange α} (hx : Commutes (Channel.withFaults faults) Channel.Quiet x) (c : Connection) :
    Commutes (withFaults faults) Quiet (c.run x) := by
  intro w hw
  obtain ⟨hchanged, hquiet⟩ := hx ⟨c, w⟩ hw
  have hchanged : x.perform ⟨c, w.withFaults faults⟩ = _ := hchanged
  refine ⟨?_, hquiet⟩
  rw [perform_run, perform_run, hchanged]
  rfl

variable (honly : Fault.OnlySearches faults)
include honly

theorem abandon_commutes (n : Nat) : Commutes (withFaults faults) Quiet (abandon n) :=
  .rescue_if (World.unbindWire_commutes honly n) fun _ _ => .pure _

theorem dial_commutes (c : Connection) (request : OpenRequest) :
    Commutes (withFaults faults) Quiet (dial c request) := by
  refine .rescue (World.openWire_commutes honly _ _) fun e y hy => ?_
  split at hy
  · cases hy
    exact .throw _
  · cases hy

theorem bindNew_commutes (c : Connection) : Commutes (withFaults faults) Quiet (bindNew c) :=
  .bind (.onFailure (run_commutes (Exchange.bind_commutes honly) c) fun _ => abandon_commutes honly _) fun _ => .pure _

theorem openAs_commutes (kind : ConnectionKind) (e : Environment) (bindNow : Bool) (tls : Option TlsSettings) :
    Commutes (withFaults faults) Quiet (openAs kind e bindNow tls) := by
  -- a new wire has a number that no fault decides
  have hnew : Commutes (withFaults faults) Quiet World.newWire := fun _ hw => ⟨rfl, hw⟩
  cases kind with
  | standard =>
    rw [openAs, openStandard_eq]
    refine .bind (.ofExcept _) fun d => .bind hnew fun n => .bind (dial_commutes honly _ _) fun _ => ?_
    split
    · exact bindNew_commutes honly _
    · exact .pure _
  | prepared =>
    refine .bind hnew fun n => ?_
    split
    · exact .bind (run_commutes (Exchange.bind_commutes honly) _) fun _ => .pure _
    · exact .pure _

theorem upgrade_commutes : Commutes (Channel.withFaults faults) Channel.Quiet upgrade :=
  .onFailure (Exchange.startTls_commutes honly) fun _ =>
    .rescue_if (Exchange.close_commutes honly) fun _ _ => .pure _

theorem openWith_commutes (kind : ConnectionKind) (policy : Option TlsArguments) (e : Environment) :
    Commutes (withFaults faults) Quiet (openWith kind policy e) := by
  cases policy with
  | none => exact openAs_commutes honly _ _ _ _
  | some policy =>
    exact .bind (.ofExcept _) fun tls => .bind (openAs_commutes honly _ _ _ _) fun c =>
      .bind (run_commutes (upgrade_commutes honly) c) fun _ => .pure _

/-- **Opening a connection** does not notice faults that hit searches. -/
theorem establish_commutes (kind : ConnectionKind) (policy : Option TlsArguments) (s : Settings) :
    Commutes (withFaults faults) Quiet (establish kind policy s) := by
  refine .rescue (openWith_commutes honly _ _ _) fun e y hy => ?_
  split at hy
  · cases hy
  cases hy
  split
  · exact .throw _
  exact .bind (World.say_commutes _ _ _ _) fun _ => .rescue_if (openWith_commutes honly _ _ _) fun _ _ => .throw _

end Connection

/-! ## §2 Operations of the manager -/

namespace Manager

def Quiet (m : Manager) : Prop :=
  m.world.Quiet

/-- The manager with these faults due. -/
def withFaults (faults : List Fault) (m : Manager) : Manager :=
  { m with world := m.world.withFaults faults }

end Manager

namespace Managed

open Manager

theorem onWorld_commutes {x : Session World α} (hx : Commutes (World.withFaults faults) World.Quiet x) :
    Commutes (withFaults faults) Quiet (onWorld x) :=
  .within hx (fun _ => rfl) (fun _ _ => rfl) (fun _ h => h) fun _ _ _ h => h

theorem say_commutes (level : Level) (text : String) : Commutes (withFaults faults) Quiet (say level text) :=
  onWorld_commutes (World.say_commutes _ _ _ _)

theorem onConnection_commutes (id : HandleId) {x : Exchange α}
    (hx : Commutes (Channel.withFaults faults) Channel.Quiet x) :
    Commutes (withFaults faults) Quiet (onConnection id x) := by
  intro m hm
  rw [perform_onConnection, perform_onConnection]
  have hsame : (m.withFaults faults).connection? id = m.connection? id := rfl
  -- the faults do not touch the connections of the manager
  rw [hsame]
  rcases m.connection? id with _ | c
  · exact ⟨rfl, hm⟩
  · obtain ⟨hchanged, hquiet⟩ := hx ⟨c, m.world⟩ hm
    have hchanged : x.perform ⟨c, (m.withFaults faults).world⟩ = _ := hchanged
    refine ⟨?_, hquiet⟩
    dsimp only
    rw [hchanged]
    rfl

theorem newHandle_commutes (snapshot : Snapshot) (pooled : Bool) :
    Commutes (withFaults faults) Quiet (newHandle snapshot pooled) :=
  .bind (.ofExcept _) fun _ => .bind_get_set (fun _ _ => rfl) (fun _ h => h) (fun _ _ => rfl) fun _ => .pure _

theorem lock_commutes : Commutes (withFaults faults) Quiet lock := by
  have htake : Commutes (withFaults faults) Quiet
      (modify fun m : Manager => { m with isLocked := true }) := .modify (fun _ _ => rfl) fun _ h => h
  refine .bind_get (fun _ _ => rfl) fun m => ?_
  split
  · exact .bind (.throw _) fun _ => htake
  · exact htake

theorem unlock_commutes : Commutes (withFaults faults) Quiet unlock := by
  have hgive : Commutes (withFaults faults) Quiet
      (modify fun m : Manager => { m with isLocked := false }) := .modify (fun _ _ => rfl) fun _ h => h
  refine .bind_get (fun _ _ => rfl) fun m => ?_
  split
  · exact .bind (.throw _) fun _ => hgive
  · exact hgive

theorem unlockFor_commutes (id : HandleId) : Commutes (withFaults faults) Quiet (unlockFor id) := by
  refine .bind_get (fun _ _ => rfl) fun m => ?_
  split
  · exact unlock_commutes
  · exact .pure _

theorem shareNew_commutes (snapshot : Snapshot) : Commutes (withFaults faults) Quiet (shareNew snapshot) := by
  have hshare (id : HandleId) : Commutes (withFaults faults) Quiet (do
      modify fun m : Manager => { m with shared := some id }
      return id) := .bind (.modify (fun _ _ => rfl) fun _ h => h) fun _ => .pure _
  refine .bind_get_set (fun _ _ => rfl) (fun _ h => h) (fun _ _ => rfl) fun m => ?_
  split
  · exact .bind (.pure _) hshare
  · exact .bind (newHandle_commutes _ _) hshare

section Closing

variable (honly : Fault.OnlySearches faults)
include honly

theorem openHandle_commutes (id : HandleId) : Commutes (withFaults faults) Quiet (openHandle id) := by
  intro m hm
  -- the faults do not touch the handles of the manager
  have hsame : (m.withFaults faults).handle? id = m.handle? id := rfl
  rcases hid : m.handle? id with _ | h
  · rw [perform_openHandle_of_none hid, perform_openHandle_of_none (hsame.trans hid)]
    exact ⟨rfl, hm⟩
  · rw [perform_openHandle hid, perform_openHandle (hsame.trans hid)]
    have hestablish := Connection.establish_commutes honly m.connector m.tls h.settings
    rcases hrun : (Connection.establish m.connector m.tls h.settings).perform m.world with ⟨e | c, w⟩
    all_goals
      obtain ⟨hchanged, hquiet⟩ := hestablish.of_perform hrun hm
      have hchanged : (Connection.establish (m.withFaults faults).connector (m.withFaults faults).tls
        h.settings).perform (m.withFaults faults).world = _ := hchanged
      rw [hchanged]
      exact ⟨rfl, hquiet⟩

theorem closeConnection_commutes (id : HandleId) : Commutes (withFaults faults) Quiet (closeConnection id) := by
  refine .bind_get (fun _ _ => rfl) fun m => ?_
  split
  · exact .pure _
  · have hclose := onConnection_commutes id (Exchange.close_commutes honly)
    exact .bind (.rescue_if hclose fun _ _ => say_commutes _ _) fun _ => .modify (fun _ _ => rfl) fun _ h => h

theorem sharedHandle_commutes (snapshot : Snapshot) : Commutes (withFaults faults) Quiet (sharedHandle snapshot) := by
  intro m hm
  rw [perform_sharedHandle, perform_sharedHandle]
  have hsame : (m.withFaults faults).sharedFor? snapshot = m.sharedFor? snapshot := rfl
  rw [hsame]
  split
  · exact ⟨rfl, hm⟩
  · exact Commutes.bind (.forM (closeConnection_commutes honly) _) (fun _ => shareNew_commutes snapshot) m hm

theorem takeHandle_commutes : Commutes (withFaults faults) Quiet takeHandle := by
  refine .bind_get_at fun m hm => ?_
  have hpool : (m.withFaults faults).pool = m.pool := rfl
  rw [hpool]
  rcases m.pool with _ | pool
  · exact Commutes.bind lock_commutes
      (fun _ => .onFailure (sharedHandle_commutes honly m.active) fun _ => unlock_commutes) m hm
  · rcases hpop : pool.pop? with _ | ⟨id, rest⟩
    · simp only [hpop]
      exact newHandle_commutes m.active true m hm
    · simp only [hpop]
      exact ⟨rfl, hm⟩

/-- **Acquiring a handle** does not notice faults that hit searches. -/
theorem acquire_commutes : Commutes (withFaults faults) Quiet acquire := by
  rw [acquire_eq]
  refine .bind (takeHandle_commutes honly) fun id => .bind_get (fun _ _ => rfl) fun m => ?_
  split
  · exact .bind (.onFailure (openHandle_commutes honly id) fun _ => unlockFor_commutes id) fun _ => .pure _
  · exact .pure _

theorem close_commutes (id : HandleId) : Commutes (withFaults faults) Quiet (close id) := by
  rw [close_eq]
  exact .bind (closeConnection_commutes honly id) fun _ => unlockFor_commutes id

theorem release_commutes (id : HandleId) : Commutes (withFaults faults) Quiet (release id) := by
  refine .bind_get_at fun m hm => ?_
  -- where a handle goes is decided by the manager, not by its faults
  have hcurrent : (m.withFaults faults).isCurrent id = m.isCurrent id := rfl
  have hpooled : (m.withFaults faults).isPooled id = m.isPooled id := rfl
  have hpool : (m.withFaults faults).pool = m.pool := rfl
  rw [hcurrent, hpooled, hpool]
  split
  · rcases if m.isCurrent id then m.pool.bind (·.push? id) else none with _ | pool
    · exact closeConnection_commutes honly id m hm
    · exact ⟨rfl, hm⟩
  · split
    · exact Commutes.bind (closeConnection_commutes honly id) (fun _ => unlock_commutes) m hm
    · exact unlock_commutes m hm

theorem drainPool_commutes : Commutes (withFaults faults) Quiet drainPool := by
  refine .bind_get_at fun m hm => ?_
  have hpool : (m.withFaults faults).pool = m.pool := rfl
  rw [hpool]
  rcases m.pool with _ | pool
  · exact ⟨rfl, hm⟩
  · exact Commutes.forM (closeConnection_commutes honly) _ { m with pool := some pool.drain.2 } hm

end Closing

end Managed

end DirectoryLogin

import DirectoryLogin.Proofs.Connection.Lifetimes
import DirectoryLogin.Proofs.Manager.Operations
import Mathlib.Logic.Relation
/-!
# The Manager Step by Step

Whatever the manager is asked for, it does in small steps: it keeps its books, uses a connection, closes one, opens
one, or changes its settings. What every step keeps is kept by every operation, and however the operation ends.

- `Manager.Step`: the steps.
- `Manager.Advances`: some steps, one after the other.
- `Managed.…_advances`: one lemma for each operation.
-/

namespace DirectoryLogin

namespace Manager

/-! ## §1 Steps -/

/-- The steps of a manager. Of the snapshots only those with `next` may become active. -/
inductive Step (next : Snapshot → Prop) (m : Manager) : Manager → Prop
  /-- The pool, the mutex, the handles without a connection and the messages change. -/
  | books (m' : Manager) (hregistry : m'.registry = m.registry) (hconnector : m'.connector = m.connector)
      (hconnections : ∀ id, m'.connection? id = m.connection? id)
      (hworld : ∃ journal, m'.world = { m.world with journal := journal }) : Step next m m'
  /-- The connection of a handle is used. -/
  | used (id : HandleId) (c : Connection) (ch : Channel) (hc : m.connection? id = some c)
      (huses : Channel.Uses ⟨c, m.world⟩ ch) :
      Step next m { m.setConnection id (some ch.connection) with world := ch.world }
  /-- The connection of a handle is ended, and the handle gives it up. -/
  | ended (id : HandleId) (c : Connection) (hc : m.connection? id = some c) :
      Step next m
        { m.setConnection id none with world := (Exchange.close.perform ⟨c, m.world⟩).2.world }
  /-- The connection of a handle is ended, but by an interrupt the handle keeps it. -/
  | interrupted (id : HandleId) (c : Connection) (hc : m.connection? id = some c)
      (hinterrupt : ¬ FailsOrdinarily (Exchange.close.perform ⟨c, m.world⟩).1) :
      Step next m
        { m.setConnection id (some (Exchange.close.perform ⟨c, m.world⟩).2.connection) with
          world := (Exchange.close.perform ⟨c, m.world⟩).2.world }
  /-- A handle gets a new connection. -/
  | opened (id : HandleId) (s : Settings) (c : Connection) (w : World)
      (hopen : (Connection.establish m.connector m.tls s).perform m.world = (.ok c, w)) :
      Step next m { m.setConnection id (some c) with world := w }
  /-- No connection could be opened. -/
  | failed (s : Settings) (e : Failure) (w : World)
      (hopen : (Connection.establish m.connector m.tls s).perform m.world = (.error e, w)) :
      Step next m { m with world := w }
  /-- A snapshot becomes the active one. -/
  | activated (snapshot : Snapshot) (chosen : Registry.Collaborators) (id : HandleId) (hnext : next snapshot)
      (hchosen : m.registry.collaborators snapshot.settings = .ok chosen) :
      Step next m (Managed.activate snapshot chosen id m)

/-- The manager has gone on by some steps. -/
def Advances (next : Snapshot → Prop) : Manager → Manager → Prop :=
  Relation.ReflTransGen (Step next)

variable {next : Snapshot → Prop} {m m' : Manager}

instance (next : Snapshot → Prop) : IsPreorder Manager (Advances next) where
  refl _ := .refl
  trans _ _ _ h g := h.trans g

theorem Step.advances (h : Step next m m') : Advances next m m' :=
  .single h

/-- The registries stay what they are. -/
theorem Advances.registry (h : Advances next m m') : m'.registry = m.registry := by
  induction h with
  | refl => rfl
  | tail _ hstep ih =>
    refine Eq.trans ?_ ih
    cases hstep with
    | books _ hregistry => exact hregistry
    | _ => rfl

/-- The books change, but neither the handles nor the world. -/
theorem Advances.ofBooks (hregistry : m'.registry = m.registry) (hconnector : m'.connector = m.connector)
    (hhandles : m'.handles = m.handles) (hworld : m'.world = m.world) : Advances next m m' := by
  refine Step.advances (.books m' hregistry hconnector (fun id => ?_) ⟨m.world.journal, hworld⟩)
  rw [connection?, handle?, hhandles]
  rfl

end Manager

namespace Managed

open Manager

variable {α : Type} {next : Snapshot → Prop} {m : Manager} {id : HandleId}

/-! ## §2 Operations that open no connection -/

theorem write_advances (message : Message) : (onWorld (modify (·.write message))).Respects (Advances next) :=
  fun _ => Step.advances (.books _ rfl rfl (fun _ => rfl) ⟨_, rfl⟩)

theorem lock_advances : lock.Respects (Advances next) := by
  refine .bind_get fun m => ?_
  split
  · exact refl_of _ m
  · exact .ofBooks rfl rfl rfl rfl

theorem unlock_advances : unlock.Respects (Advances next) := by
  refine .bind_get fun m => ?_
  split
  · exact refl_of _ m
  · exact .ofBooks rfl rfl rfl rfl

theorem unlockFor_advances (id : HandleId) : (unlockFor id).Respects (Advances next) := by
  refine .bind_get fun m => ?_
  split
  · exact unlock_advances m
  · exact refl_of _ m

theorem newHandle_advances (snapshot : Snapshot) (pooled : Bool) :
    (newHandle snapshot pooled).Respects (Advances next) := by
  intro m
  rcases newHandle_makes snapshot pooled m with ⟨h, hrun, -, -, hclosed⟩ | ⟨e, he, hrun⟩
  · rw [hrun]
    exact Step.advances (.books _ rfl rfl (connection?_newHandle m hclosed) ⟨m.world.journal, rfl⟩)
  · rw [hrun]
    exact refl_of _ m

theorem shareNew_advances (snapshot : Snapshot) : (shareNew snapshot).Respects (Advances next) := by
  intro m
  have hforget : Advances next m { m with ready := none } := .ofBooks rfl rfl rfl rfl
  have hshare (id : HandleId) : Session.Respects (Advances next) (do
      modify fun m : Manager => { m with shared := some id }
      return id) := .bind (.modify fun m => .ofBooks rfl rfl rfl rfl) fun _ => .pure _
  rw [shareNew, Session.perform_bind_of_ok (Session.perform_get m),
    Session.perform_bind_of_ok (Session.perform_set m _)]
  refine trans_of _ hforget ?_
  rcases m.readyFor? snapshot with _ | id
  · exact Session.Respects.bind (newHandle_advances snapshot false) hshare _
  · exact Session.Respects.bind (.pure id) hshare _

/-- **Using a connection.** -/
theorem onConnection_advances (id : HandleId) {x : Exchange α} (hx : x.Respects Channel.Uses) :
    (onConnection id x).Respects (Advances next) := by
  intro m
  rw [perform_onConnection]
  rcases hc : m.connection? id with _ | c
  · exact refl_of _ m
  · exact Step.advances (.used id c _ hc (hx ⟨c, m.world⟩))

theorem onHandle_advances (id : HandleId) {x : Handle → Exchange α} (hx : ∀ h, (x h).Respects Channel.Uses) :
    (onHandle id x).Respects (Advances next) := by
  intro m
  rcases hid : m.handle? id with _ | h
  · rw [perform_onHandle_of_none hid]
    exact refl_of _ m
  · rw [perform_onHandle_of_some hid]
    exact onConnection_advances id (hx h) m

/-- Closing an open handle: it gives its connection up, unless closing is interrupted. -/
theorem perform_closeConnection_of_open {c : Connection} (hc : m.connection? id = some c) :
    (closeConnection id).perform m =
      match Exchange.close.perform ⟨c, m.world⟩ with
      | (.ok _, ch) => (.ok (), { m.setConnection id none with world := ch.world })
      | (.error e, ch) =>
        if e.isOrdinary then
          (.ok (), { m.setConnection id none with
            world := ch.world.write ⟨.error, .connections, "Error closing directory connection: " ++ e.message⟩ })
        else (.error e, { m.setConnection id (some ch.connection) with world := ch.world }) := by
  -- what closing left of the connection is forgotten with it
  have hforget (c' : Connection) (w : World) :
      Manager.setConnection { m.setConnection id (some c') with world := w } id none =
        { m.setConnection id none with world := w } := by
    simp only [Manager.setConnection, updateHandle, List.modify_modify_eq]
    rfl
  rw [closeConnection, Session.perform_bind_of_ok (Session.perform_get m)]
  simp only [hc, Option.isNone_some, Bool.false_eq_true, if_false, Session.perform_bind, Session.perform_rescue,
    perform_onConnection]
  rcases Exchange.close.perform ⟨c, m.world⟩ with ⟨e | _, ch⟩
  · dsimp only
    -- an ordinary failure is logged, and any other one passed on with the connection still there
    by_cases hordinary : e.isOrdinary = true
    · simp only [hordinary, if_true]
      exact congrArg (Prod.mk _) (hforget _ _)
    · simp only [hordinary]
      rfl
  · exact congrArg (Prod.mk _) (hforget _ _)

/-- **Closing a handle.** -/
theorem closeConnection_advances (id : HandleId) : (closeConnection id).Respects (Advances next) := by
  intro m
  rcases hc : m.connection? id with _ | c
  · rw [perform_closeConnection_of_closed hc]
    exact refl_of _ m
  have hended : Step next m _ := .ended id c hc
  rw [perform_closeConnection_of_open hc]
  rcases hrun : Exchange.close.perform ⟨c, m.world⟩ with ⟨e | _, ch⟩
  all_goals
    rw [hrun] at hended
    dsimp only
  · by_cases hordinary : e.isOrdinary = true
    · -- that the request has failed is only reported
      rw [if_pos hordinary]
      have hsaid : Step next { m.setConnection id none with world := ch.world }
          { m.setConnection id none with
            world := ch.world.write ⟨.error, .connections, "Error closing directory connection: " ++ e.message⟩ } :=
        .books _ rfl rfl (fun _ => rfl) ⟨_, rfl⟩
      exact trans_of _ hended.advances hsaid.advances
    · rw [if_neg hordinary]
      have hinterrupted : Step next m _ := .interrupted id c hc fun hfails => by
        rw [hrun] at hfails
        exact hordinary (hfails e rfl)
      rw [hrun] at hinterrupted
      exact hinterrupted.advances
  · exact hended.advances

theorem forM_closeConnection_advances (ids : List HandleId) :
    (ids.forM closeConnection).Respects (Advances next) :=
  .forM closeConnection_advances ids

theorem sharedHandle_advances (snapshot : Snapshot) : (sharedHandle snapshot).Respects (Advances next) := by
  intro m
  rw [perform_sharedHandle]
  split
  · exact refl_of _ m
  · exact Session.Respects.bind (forM_closeConnection_advances _) (fun _ => shareNew_advances snapshot) m

theorem takeHandle_advances : takeHandle.Respects (Advances next) := by
  refine .bind_get fun m => ?_
  split
  · split
    · exact .ofBooks rfl rfl rfl rfl
    · exact newHandle_advances _ _ m
  · exact Session.Respects.bind lock_advances
      (fun _ => .onFailure (sharedHandle_advances m.active) fun _ => unlock_advances) m

theorem close_advances (id : HandleId) : (close id).Respects (Advances next) := by
  rw [close_eq]
  exact .bind (closeConnection_advances id) fun _ => unlockFor_advances id

theorem release_advances (id : HandleId) : (release id).Respects (Advances next) := by
  refine .bind_get fun m => ?_
  split
  · split
    · exact .ofBooks rfl rfl rfl rfl
    · exact closeConnection_advances id m
  · split
    · exact Session.Respects.bind (closeConnection_advances id) (fun _ => unlock_advances) m
    · exact unlock_advances m

theorem drainPool_advances : drainPool.Respects (Advances next) := by
  refine .bind_get fun m => ?_
  split
  · exact refl_of _ m
  · rename_i pool _
    have hempty : Advances next m { m with pool := some pool.drain.2 } := .ofBooks rfl rfl rfl rfl
    exact trans_of _ hempty (forM_closeConnection_advances pool.drain.1 _)

theorem closeShared_advances : closeShared.Respects (Advances next) := by
  refine .bind lock_advances fun _ => .bind_get fun m => ?_
  have hforget : Advances next m { m with shared := none, ready := none, isLocked := false } :=
    .ofBooks rfl rfl rfl rfl
  have hclose : Session.Respects (Advances next)
      (m.shared.toList.forM closeConnection >>= fun _ => m.ready.toList.forM closeConnection) :=
    .bind (forM_closeConnection_advances _) fun _ => forM_closeConnection_advances _
  exact trans_of _ hforget (hclose _)

theorem shutdown_advances : shutdown.Respects (Advances next) :=
  .bind closeShared_advances fun _ => drainPool_advances

/-! ## §3 Operations that open connections -/

/-- **Opening a handle.** -/
theorem openHandle_advances (id : HandleId) : (openHandle id).Respects (Advances next) := by
  intro m
  rcases hid : m.handle? id with _ | h
  · rw [perform_openHandle_of_none hid]
    exact refl_of _ m
  rw [perform_openHandle hid]
  rcases hrun : (Connection.establish m.connector m.tls h.settings).perform m.world with ⟨e | c, w⟩
  · exact Step.advances (.failed h.settings e w hrun)
  · exact Step.advances (.opened id h.settings c w hrun)

theorem acquire_advances : acquire.Respects (Advances next) := by
  rw [acquire_eq]
  refine .bind takeHandle_advances fun id => .bind .get fun m => ?_
  split
  · exact .bind (.onFailure (openHandle_advances id) fun _ => unlockFor_advances id) fun _ => .pure _
  · exact .pure _

theorem start_advances : start.Respects (Advances next) := by
  intro m
  have hacquired : Advances next m (acquire.perform m).2 := acquire_advances m
  rw [perform_start]
  rcases hrun : acquire.perform m with ⟨e | id, m₁⟩
  all_goals
    rw [hrun] at hacquired
    dsimp only
  · split
    · exact trans_of _ hacquired (write_advances _ m₁)
    · exact hacquired
  · exact trans_of _ hacquired (release_advances id m₁)

section Programs

variable {x : Handle → Exchange α} (hx : ∀ h, (x h).Respects Channel.Uses)
include hx

theorem attempt_advances : (attempt x).Respects (Advances next) := by
  rw [attempt_eq]
  refine .bind acquire_advances fun id => .bind (.onFailure (onHandle_advances id hx) fun _ => ?_)
    fun a => .bind (release_advances id) fun _ => .pure _
  exact .bind (close_advances id) fun _ => drainPool_advances

theorem attemptTwice_advances (description : String) : (attemptTwice description x).Respects (Advances next) :=
  .rescue_if (attempt_advances hx) fun _ _ => .bind (write_advances _) fun _ => attempt_advances hx

end Programs

/-- **What the realm asks of the manager**: a program, tried again on a new connection, and a report. -/
theorem answer_advances {x : Handle → Exchange (Option α)} (hx : ∀ h, (x h).Respects Channel.Uses)
    (description : String) : (answer description x).Respects (Advances next) :=
  .rescue_if (attemptTwice_advances hx description) fun _ _ => .bind (write_advances _) fun _ => .pure _

/-! ## §4 New settings -/

theorem retire_advances (pool : Option (Pool HandleId)) (s : Settings) :
    (retire pool s).Respects (Advances next) := by
  refine .bind (forM_closeConnection_advances _) fun _ => ?_
  split
  · exact .bind closeShared_advances fun _ => write_advances _
  · exact write_advances _

/-- **New settings**, whether they are accepted or not. -/
theorem reconfigure_advances {snapshot : Snapshot} (hnext : next snapshot) :
    (reconfigure snapshot).Respects (Advances next) := by
  intro m
  rw [perform_reconfigure]
  rcases hchosen : m.registry.collaborators snapshot.settings with e | chosen
  · exact refl_of _ m
  have hnotes := Session.Respects.forM (R := Advances next) write_advances chosen.notes m
  rcases hrun : (chosen.notes.forM fun note => onWorld (modify (·.write note))).perform m with ⟨e | _, m₁⟩
  all_goals
    rw [hrun] at hnotes
    dsimp only
  · rw [Session.perform_bind_of_error hrun]
    exact hnotes
  rw [Session.perform_bind_of_ok hrun]
  have hmade := trans_of (Advances next) hnotes (newHandle_advances snapshot snapshot.settings.poolingEnabled m₁)
  rcases hrun' : (newHandle snapshot snapshot.settings.poolingEnabled).perform m₁ with ⟨e | id, m₂⟩
  all_goals rw [hrun'] at hmade
  · rw [Session.perform_bind_of_error hrun']
    exact hmade
  rw [Session.perform_bind_of_ok hrun', Session.perform_bind_of_ok (Session.perform_get m₂)]
  -- the registries have not changed on the way, so that the choice still holds
  have hactivate : Step next m₂ (activate snapshot chosen id m₂) :=
    .activated snapshot chosen id hnext (hmade.registry.symm ▸ hchosen)
  exact trans_of _ (trans_of _ hmade hactivate.advances)
    (Session.Respects.bind (retire_advances m₂.pool snapshot.settings) (fun _ => .pure id)
      (activate snapshot chosen id m₂))

end Managed

end DirectoryLogin

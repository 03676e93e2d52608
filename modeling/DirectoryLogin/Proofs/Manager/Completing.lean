import DirectoryLogin.Proofs.Manager.Operations
/-!
# The Manager without Interrupts

As long as no fault that is due is an interrupt, opening, using and closing connections complete. So do the operations
of the manager that a block is made of, if nobody has to wait for the mutex.

- `Connection.establish_completes`: opening a connection.
- `Managed.acquire_completes`, `Managed.release_completes`, `Managed.close_completes`: lending and giving back.
-/

namespace DirectoryLogin

open Session (Completes)

/-! ## §1 Opening connections -/

namespace Connection

open World (Calm)

theorem run_completes {α : Type} {x : Exchange α} (hx : Completes Channel.Calm x) (c : Connection) :
    Completes Calm (c.run x) := by
  intro w hw
  obtain ⟨hordinary, hcalm⟩ := hx ⟨c, w⟩ hw
  exact ⟨hordinary.map _, hcalm⟩

theorem abandon_completes (n : Nat) : Completes Calm (abandon n) :=
  .rescue_if (World.unbindWire_completes n) fun _ _ => .pure _

theorem dial_completes (c : Connection) (request : OpenRequest) : Completes Calm (dial c request) := by
  refine .rescue (World.openWire_completes _ _) fun e y hy => ?_
  split at hy
  · cases hy
    exact .throw rfl
  · cases hy

theorem bindNew_completes (c : Connection) : Completes Calm (bindNew c) :=
  .bind (.onFailure (run_completes Exchange.bind_completes c) fun _ => abandon_completes _) fun _ => .pure _

theorem openAs_completes (kind : ConnectionKind) (e : Environment) (bindNow : Bool) (tls : Option TlsSettings) :
    Completes Calm (openAs kind e bindNow tls) := by
  -- a number for a new wire is always to be had
  have hnew : Completes Calm World.newWire := fun _ hw => ⟨.ok _, hw⟩
  cases kind with
  | standard =>
    rw [openAs, openStandard_eq]
    refine .bind (.ofExcept (destination_failsOrdinarily e tls)) fun d => .bind hnew fun n => ?_
    refine .bind (dial_completes _ _) fun _ => ?_
    split
    · exact bindNew_completes _
    · exact .pure _
  | prepared =>
    refine .bind hnew fun n => ?_
    split
    · exact .bind (run_completes Exchange.bind_completes _) fun _ => .pure _
    · exact .pure _

theorem upgrade_completes : Completes Channel.Calm upgrade :=
  .onFailure Exchange.startTls_completes fun _ => .rescue_if Exchange.close_completes fun _ _ => .pure _

theorem openWith_completes (kind : ConnectionKind) (policy : Option TlsArguments) (e : Environment) :
    Completes Calm (openWith kind policy e) := by
  cases policy with
  | none => exact openAs_completes _ _ _ _
  | some policy =>
    have hbuild : FailsOrdinarily policy.build := .ite (.ok _) (.error rfl)
    exact .bind (.ofExcept hbuild) fun tls => .bind (openAs_completes _ _ _ _) fun c =>
      .bind (run_completes upgrade_completes c) fun _ => .pure _

/-- **Opening a connection** completes in a calm world. -/
theorem establish_completes (kind : ConnectionKind) (policy : Option TlsArguments) (s : Settings) :
    Completes Calm (establish kind policy s) := by
  refine .rescue (openWith_completes _ _ _) fun e y hy => ?_
  split at hy
  · cases hy
  cases hy
  split
  · exact .throw rfl
  exact .bind (World.say_completes _ _ _) fun _ => .rescue_if (openWith_completes _ _ _) fun _ _ => .throw rfl

end Connection

/-! ## §2 Operations of the manager -/

/-- No fault that is due is an interrupt. -/
def Manager.Calm (m : Manager) : Prop :=
  m.world.Calm

namespace Managed

open Manager

variable {α : Type} {m : Manager} {id : HandleId}

theorem onWorld_completes {x : Session World α} (hx : Completes World.Calm x) : Completes Calm (onWorld x) :=
  .within hx (fun _ h => h) fun _ _ _ h => h

theorem onConnection_completes (id : HandleId) {x : Exchange α} (hx : Completes Channel.Calm x) :
    Completes Calm (onConnection id x) := by
  intro m hm
  rw [perform_onConnection]
  rcases m.connection? id with _ | c
  · exact ⟨.error rfl, hm⟩
  · exact hx ⟨c, m.world⟩ hm

theorem onHandle_completes (id : HandleId) {x : Handle → Exchange α} (hx : ∀ h, Completes Channel.Calm (x h)) :
    Completes Calm (onHandle id x) := by
  intro m hm
  rcases hid : m.handle? id with _ | h
  · rw [perform_onHandle_of_none hid]
    exact ⟨.error rfl, hm⟩
  · rw [perform_onHandle_of_some hid]
    exact onConnection_completes id (hx h) m hm

theorem openHandle_completes (id : HandleId) : Completes Calm (openHandle id) := by
  intro m hm
  rcases hid : m.handle? id with _ | h
  · rw [perform_openHandle_of_none hid]
    exact ⟨.error rfl, hm⟩
  · -- a handle that is there is opened with its own settings
    have hestablish := Connection.establish_completes m.connector m.tls h.settings m.world hm
    rw [perform_openHandle hid]
    rcases hrun : (Connection.establish m.connector m.tls h.settings).perform m.world with ⟨e | c, w⟩
    all_goals
      rw [hrun] at hestablish
      obtain ⟨hordinary, hw⟩ := hestablish
    · exact ⟨.error (hordinary e rfl), hw⟩
    · exact ⟨.ok _, hw⟩

theorem closeConnection_completes (id : HandleId) : Completes Calm (closeConnection id) := by
  refine .bind .get fun m => ?_
  split
  · exact .pure _
  · have hclosed := onConnection_completes id Exchange.close_completes
    refine .bind (.rescue_if hclosed fun _ _ => ?_) fun _ => .modify fun _ hm => hm
    exact onWorld_completes (World.say_completes _ _ _)

theorem newHandle_completes (snapshot : Snapshot) (pooled : Bool) : Completes Calm (newHandle snapshot pooled) := by
  intro m hm
  rcases newHandle_makes snapshot pooled m with ⟨h, hrun, -⟩ | ⟨e, he, hrun⟩
  · rw [hrun]
    exact ⟨.ok _, hm⟩
  · rw [hrun]
    exact ⟨.error (Failure.ordinary_of_isRejection he), hm⟩

theorem unlock_completes : Completes Calm unlock := by
  refine .bind .get fun m => ?_
  split
  · exact .bind (.throw rfl) fun _ => .modify fun _ hm => hm
  · exact .modify fun _ hm => hm

theorem unlockFor_completes (id : HandleId) : Completes Calm (unlockFor id) := by
  refine .bind .get fun m => ?_
  split
  · exact unlock_completes
  · exact .pure _

theorem shareNew_completes (snapshot : Snapshot) : Completes Calm (shareNew snapshot) := by
  have hshare (id : HandleId) : Completes Calm (do
      modify fun m : Manager => { m with shared := some id }
      return id) := .bind (.modify fun _ hm => hm) fun _ => .pure _
  intro m hm
  rw [shareNew, Session.perform_bind_of_ok (Session.perform_get m),
    Session.perform_bind_of_ok (Session.perform_set m _)]
  rcases m.readyFor? snapshot with _ | id
  · exact Completes.bind (newHandle_completes snapshot false) hshare _ hm
  · exact Completes.bind (.pure id) hshare _ hm

theorem sharedHandle_completes (snapshot : Snapshot) : Completes Calm (sharedHandle snapshot) := by
  intro m hm
  rw [perform_sharedHandle]
  split
  · exact ⟨.ok _, hm⟩
  · exact Completes.bind (.forM closeConnection_completes _) (fun _ => shareNew_completes snapshot) m hm

theorem takeHandle_completes (hm : m.Calm) (hwaits : m.waits .acquire = false) :
    FailsOrdinarily (takeHandle.perform m).1 ∧ (takeHandle.perform m).2.Calm := by
  rw [takeHandle, Session.perform_bind_of_ok (Session.perform_get m)]
  rcases hpool : m.pool with _ | pool
  · have hfree : m.isLocked = false := by simpa [Manager.waits, hpool] using hwaits
    dsimp only
    rw [Session.perform_bind_of_ok (perform_lock hfree)]
    exact Completes.onFailure (sharedHandle_completes m.active) (fun _ => unlock_completes) _ hm
  · rcases hpop : pool.pop? with _ | ⟨id, rest⟩
    · simp only [hpop]
      exact newHandle_completes m.active true m hm
    · simp only [hpop]
      exact ⟨.ok id, hm⟩

/-- **Acquiring a handle** completes, unless it would have to wait for the mutex. -/
theorem acquire_completes (hm : m.Calm) (hwaits : m.waits .acquire = false) :
    FailsOrdinarily (acquire.perform m).1 ∧ (acquire.perform m).2.Calm := by
  have htake := takeHandle_completes hm hwaits
  -- the rest is opening the handle, and giving the mutex back if that fails
  have hopen (id : HandleId) : Completes Calm
      (((openHandle id).onFailure Failure.isOrdinary fun _ => unlockFor id) >>= fun _ =>
        (pure id : Managed HandleId)) :=
    .bind (.onFailure (openHandle_completes id) fun _ => unlockFor_completes id) fun _ => .pure _
  rw [acquire_eq]
  rcases hrun : takeHandle.perform m with ⟨e | id, m₁⟩
  all_goals
    rw [hrun] at htake
    obtain ⟨hordinary, hm₁⟩ := htake
  · rw [Session.perform_bind_of_error hrun]
    exact ⟨.error (hordinary e rfl), hm₁⟩
  · rw [Session.perform_bind_of_ok hrun, Session.perform_bind_of_ok (Session.perform_get m₁)]
    split
    · exact hopen id m₁ hm₁
    · exact ⟨.ok id, hm₁⟩

theorem close_completes (id : HandleId) : Completes Calm (close id) := by
  rw [close_eq]
  exact .bind (closeConnection_completes id) fun _ => unlockFor_completes id

theorem release_completes (id : HandleId) : Completes Calm (release id) := by
  refine .bind_get fun m hm => ?_
  split
  · split
    · exact ⟨FailsOrdinarily.ok PUnit.unit, hm⟩
    · exact closeConnection_completes id m hm
  · split
    · exact Completes.bind (closeConnection_completes id) (fun _ => unlock_completes) m hm
    · exact unlock_completes m hm

theorem drainPool_completes : Completes Calm drainPool := by
  refine .bind_get fun m hm => ?_
  split
  · exact ⟨.ok _, hm⟩
  · rw [Session.perform_bind_of_ok (Session.perform_set m _)]
    exact Completes.forM closeConnection_completes _ _ hm

end Managed

end DirectoryLogin

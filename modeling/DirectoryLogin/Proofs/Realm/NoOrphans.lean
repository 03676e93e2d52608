import DirectoryLogin.Proofs.Manager.Accounting
import DirectoryLogin.Proofs.Realm.CallMoves
/-!
# No Connection is Orphaned

Whoever is answerable for an open connection can always be found: somebody has its handle, or the handle is idle, or it
is the shared one. So nothing is left open when the manager is shut down while no handle is out, and every connection
that has ever been in a handle has been ended by then, once. Only an interrupt while a connection is being opened or
ended could leave one behind.

- `Desk.Stored.accounted`: what has become of a connection, after any undisturbed run.
- `Realm.moves_engage`: the calls of a realm leave it to the manager to end connections.
- `no_orphans`: all of this, for every undisturbed run from a new manager.
-/

namespace DirectoryLogin

open Manager Managed

/-- The move does not end a connection behind the manager's back: no program over a connection sends the request that
ends it. -/
def Move.Engages : Move → Prop
  | .use _ x => ∀ h, (x h).Respects Channel.Engages
  | _ => True

namespace Desk

variable {d : Desk} {move : Move} {moves : List Move} {c : Connection}

/-! ## §1 Connections along a run -/

/-- **Undisturbed moves account for connections.** -/
theorem step_accounts (hmove : d.Undisturbed move) (hengages : move.Engages) :
    Accounts d.manager (d.step move).manager := by
  -- an operation that is not interrupted comes to an end of its own
  have hoperation {α : Type} {x : Managed α} (hprogram : move.program = (fun _ => none) <$> x) (hother : ¬ move.IsUse)
      (hx : Session.Concludes Accounts x) : Accounts d.manager (d.step move).manager := by
    have hordinary := hmove.2 hother
    rw [result_of_program hprogram] at hordinary
    rw [step_of_program hprogram]
    exact hx d.manager (failsOrdinarily_of_map hordinary)
  cases move with
  | acquire =>
    have hordinary := hmove.2 not_false
    rw [result_acquire] at hordinary
    rw [step_acquire]
    exact acquire_accounts d.manager (failsOrdinarily_of_map hordinary)
  | release id => exact hoperation rfl not_false (release_accounts id)
  | close id => exact hoperation rfl not_false (close_accounts id)
  | abandon id => exact hoperation rfl not_false (.bind (close_accounts id) fun _ => drainPool_accounts)
  | drainPool => exact hoperation rfl not_false drainPool_accounts
  | start => exact hoperation rfl not_false start_accounts
  | shutdown => exact hoperation rfl not_false shutdown_accounts
  | reconfigure snapshot => exact hoperation rfl not_false (reconfigure_accounts snapshot)
  | use id x =>
    rw [step_of_program (x := onHandle id x) rfl]
    exact onHandle_accounts id hengages d.manager
  | write message => exact hoperation rfl not_false (write_accounts message).concludes
  | outside directory faults => exact .ofFrame (fun _ => rfl) rfl rfl

theorem run_accounts (hmoves : d.All Undisturbed moves) (hengage : ∀ move ∈ moves, move.Engages) :
    Accounts d.manager (d.run moves).manager := by
  induction moves generalizing d with
  | nil => exact refl_of Accounts d.manager
  | cons move rest ih =>
    have hfirst := step_accounts hmoves.1 (hengage move List.mem_cons_self)
    exact trans_of Accounts hfirst (ih hmoves.2 fun later hlater => hengage later (List.mem_cons_of_mem move hlater))

/-- The managers that a move leads through. Starting acquires a handle and then gives it back. Any other move opens at
most one connection, as the last thing it does. -/
def stages (d : Desk) : Move → List Manager
  | .start => [(d.step .acquire).manager, (d.step .start).manager]
  | move => [(d.step move).manager]

/-- A handle has the connection at some time in a run. -/
def Stored (d : Desk) (moves : List Move) (c : Connection) : Prop :=
  ∃ before move after, moves = before ++ move :: after ∧
    ∃ m ∈ (d.run before).stages move, ∃ id, m.connection? id = some c

theorem mem_stages_iff {m : Manager} :
    m ∈ d.stages move ↔ m = (d.step move).manager ∨ move = .start ∧ m = (d.step .acquire).manager := by
  cases move with
  | start => simp [stages, or_comm]
  | _ => simp [stages]

/-- Connections are accounted for on the way through a move, too. -/
theorem stages_accounts (hmove : d.Undisturbed move) (hengages : move.Engages) {m : Manager}
    (hm : m ∈ d.stages move) : Accounts d.manager m ∧ Accounts m (d.step move).manager := by
  rcases mem_stages_iff.mp hm with rfl | ⟨rfl, rfl⟩
  · exact ⟨step_accounts hmove hengages, refl_of Accounts _⟩
  · have hordinary := hmove.2 not_false
    rw [result_of_program (x := Managed.start) rfl] at hordinary
    obtain ⟨hacquire, hrest⟩ := acquire_start_accounts (failsOrdinarily_of_map hordinary)
    rw [step_acquire, step_of_program (x := Managed.start) rfl]
    exact ⟨acquire_accounts d.manager hacquire, hrest⟩

/-- **What becomes of a connection**: it is still in a handle after the run, or it has been ended once. -/
theorem Stored.accounted (hd : d.manager.Tallied) (hmoves : d.All Undisturbed moves)
    (hengage : ∀ move ∈ moves, move.Engages) (h : d.Stored moves c) :
    (d.run moves).manager.Holds c.wire ∨ (d.run moves).manager.world.unbinds c.wire = 1 := by
  obtain ⟨before, move, after, rfl, m, hm, id, hc⟩ := h
  obtain ⟨hbefore, hmove, hafter⟩ := all_append_iff.mp hmoves
  have hlead := run_accounts hbefore fun earlier hearlier => hengage earlier (List.mem_append_left _ hearlier)
  obtain ⟨hin, hout⟩ := stages_accounts hmove (hengage move (List.mem_append_right _ List.mem_cons_self)) hm
  have hrest := run_accounts hafter fun later hlater =>
    hengage later (List.mem_append_right _ (List.mem_cons_of_mem move hlater))
  -- from the moment the handle has the connection
  have hstored : m.Tallied := (hin (hlead hd).tallied).tallied
  have hend : (d.run (before ++ move :: after)).manager = (((d.run before).step move).run after).manager :=
    congrArg manager (run_append d before (move :: after))
  rw [hend]
  exact (trans_of Accounts hout hrest hstored).ended c.wire ⟨id, c, hc, rfl⟩

/-- A new manager has no connections. -/
theorem tallied_of_create {registry : Registry} {snapshot : Snapshot} {w : World} {m : Manager}
    (hcreate : ((Manager.create registry snapshot).perform w).1 = .ok m) (hw : w.Recorded) : m.Tallied := by
  obtain ⟨hhandles, -, -, -, -, -, hevents, hwires⟩ := created hcreate
  -- no handle, hence none with a connection
  have hnone (id : HandleId) (c : Connection) : m.connection? id ≠ some c := by
    rw [Manager.connection?, Manager.handle?, hhandles]
    exact (Option.some_ne_none c).symm
  constructor
  · intro e he
    rw [hevents] at he
    rw [hwires]
    exact hw e he
  · exact fun id c hc => absurd hc (hnone id c)
  · exact fun id _ c _ hc => absurd hc (hnone id c)
  · exact fun id c hc => absurd hc (hnone id c)

/-! ## §2 Shutting down -/

/-- Shutting down forgets the shared handle, and leaves none idle. -/
theorem shutdown_empties {m : Manager} (hfree : m.isLocked = false)
    (h : FailsOrdinarily (Managed.shutdown.perform m).1) :
    (Managed.shutdown.perform m).2.shared = none ∧ (Managed.shutdown.perform m).2.idle = [] := by
  have hforgets : (closeShared.perform m).2.shared = none := by
    rw [perform_closeShared hfree]
    exact (forM_closeConnection_sameBooks _ _).shared
  rw [Managed.shutdown, Session.perform_bind] at h ⊢
  rcases hrun : closeShared.perform m with ⟨e | _, m₁⟩
  · -- closing fails only by an interrupt
    rw [hrun] at h
    rw [perform_closeShared hfree] at hrun
    have hvalue := (forM_closeConnection_closes _ _ (by rw [hrun]; exact fun e' he => h e' (he ▸ rfl))).1
    rw [hrun] at hvalue
    cases hvalue
  · rw [hrun] at hforgets
    change (Managed.drainPool.perform m₁).2.shared = none ∧ (Managed.drainPool.perform m₁).2.idle = []
    rw [Managed.drainPool, Session.perform_bind_of_ok (Session.perform_get m₁)]
    rcases hpool : m₁.pool with _ | pool
    · refine ⟨hforgets, ?_⟩
      change m₁.idle = []
      rw [Manager.idle, hpool, Option.elim_none]
    · dsimp only
      rw [Session.perform_bind_of_ok (Session.perform_set m₁ _)]
      have hbooks := forM_closeConnection_sameBooks pool.drain.1 { m₁ with pool := some pool.drain.2 }
      exact ⟨hbooks.shared.trans hforgets, hbooks.idle⟩

/-- **Nothing is open after a shutdown** while no handle is out. -/
theorem Balanced.closed_of_shutdown (hd : d.Balanced) (hout : d.out = []) (hshutdown : d.Undisturbed .shutdown)
    (id : HandleId) : (d.step .shutdown).manager.connection? id = none := by
  have hheld := (hd.step hshutdown).held
  have hordinary := hshutdown.2 not_false
  rw [result_of_program (x := Managed.shutdown) rfl] at hordinary
  rw [step_of_program (x := Managed.shutdown) rfl] at hheld ⊢
  obtain ⟨hshared, hidle⟩ := shutdown_empties hshutdown.proper (failsOrdinarily_of_map hordinary)
  -- an open handle would have to be held by somebody, and there is nobody left
  rcases hc : (Managed.shutdown.perform d.manager).2.connection? id with _ | c
  · rfl
  · have hopen : (Managed.shutdown.perform d.manager).2.isOpen id = true := by
      rw [isOpen, hc]
      rfl
    rcases hheld id hopen with hmem | hmem | hmem | hmem
    · rw [show (Desk.mk _ _).out = d.out from rfl, hout] at hmem
      cases hmem
    · rw [hidle] at hmem
      cases hmem
    · rw [hshared] at hmem
      cases hmem
    · cases hmem

/-! ## §3 Blocks of the realm -/

variable {α : Type}

/-- What is done in a block is all that counts. -/
theorem block_engages {x : Handle → Exchange α} (hx : ∀ h, (x h).Respects Channel.Engages) :
    ∀ move ∈ d.block x, move.Engages := by
  have huse (id : HandleId) : (Move.use id (discard x)).Engages := fun h => (hx h).map _
  intro move hmem
  unfold block at hmem
  -- no handle to be had
  split at hmem
  · rw [List.mem_singleton.mp hmem]
    trivial
  · -- the block takes a handle, uses it, and gives it back or abandons it
    rename_i id _
    split at hmem
    all_goals
      simp only [List.mem_cons, List.not_mem_nil, or_false] at hmem
      rcases hmem with rfl | rfl | rfl
      · trivial
      · exact huse id
      · trivial

theorem blockTwice_engages {x : Handle → Exchange α} (hx : ∀ h, (x h).Respects Channel.Engages)
    (description : String) : ∀ move ∈ d.blockTwice description x, move.Engages := by
  rw [blockTwice, List.forall_mem_append]
  refine ⟨block_engages hx, ?_⟩
  split
  · exact List.forall_mem_nil _
  · dsimp only
    split
    · exact List.forall_mem_cons.mpr ⟨trivial, block_engages hx⟩
    · exact List.forall_mem_nil _

theorem answer_engages {x : Handle → Exchange (Option α)} (hx : ∀ h, (x h).Respects Channel.Engages)
    (description : String) : ∀ move ∈ d.answer description x, move.Engages := by
  rw [answer, List.forall_mem_append]
  refine ⟨blockTwice_engages hx description, ?_⟩
  split
  · exact List.forall_mem_nil _
  · split
    · exact List.forall_mem_singleton.mpr trivial
    · exact List.forall_mem_nil _

end Desk

/-- **The calls of a realm** leave it to the manager to end connections. -/
theorem Realm.moves_engage (r : Realm) (out : List HandleId) (activity : Activity) :
    ∀ move ∈ r.moves out activity, move.Engages := by
  cases activity with
  | start => exact List.forall_mem_singleton.mpr trivial
  | stop => exact List.forall_mem_singleton.mpr trivial
  | authenticate username password =>
    rw [Realm.moves]
    -- a login is an answer and a message about it, or nothing
    split
    · rw [Realm.loginMoves, List.forall_mem_append]
      refine ⟨Desk.answer_engages (fun h => Exchange.Orderly.authenticate.engages) _, ?_⟩
      split
      · exact List.forall_mem_nil _
      · exact List.forall_mem_singleton.mpr trivial
      · exact List.forall_mem_singleton.mpr trivial
    · exact List.forall_mem_nil _
  | getPassword username =>
    rw [Realm.moves]
    split
    · exact List.forall_mem_nil _
    · exact Desk.answer_engages (fun h => Exchange.Orderly.storedPassword.engages) _
  | getPrincipal username credential =>
    rw [Realm.moves]
    split
    · exact Desk.answer_engages (fun h => Exchange.Orderly.knownPrincipal.engages) _
    · exact List.forall_mem_nil _
  | reconfigure snapshot =>
    rw [Realm.moves]
    split
    · exact List.forall_mem_singleton.mpr trivial
    · exact List.forall_mem_nil _
  | _ => exact List.forall_mem_nil _

/-! ## §4 The theorem -/

/-- **No connection is orphaned.** After any run from a new manager in which every handle is used and given back only
by who has it, nobody waits for the mutex, and nothing but the bodies of blocks is interrupted, every handle with a
connection is out, or idle in the pool that there is, or it is the shared one. If then the manager is shut down while
no handle is out, no handle has a connection; and if it was left to the manager to end them, every connection that has
been in a handle has been ended by then, once. -/
theorem no_orphans {registry : Registry} {snapshot : Snapshot} {w : World} {m : Manager}
    (hcreate : ((Manager.create registry snapshot).perform w).1 = .ok m) {moves : List Move}
    (hmoves : (Desk.mk m []).All Desk.Undisturbed moves) :
    (∀ id c, ((Desk.mk m []).run moves).manager.connection? id = some c →
      id ∈ ((Desk.mk m []).run moves).out ∨ id ∈ ((Desk.mk m []).run moves).manager.idle ∨
        ((Desk.mk m []).run moves).manager.shared = some id) ∧
    (((Desk.mk m []).run moves).out = [] → ((Desk.mk m []).run moves).Undisturbed .shutdown →
      (∀ id, (((Desk.mk m []).run moves).step .shutdown).manager.connection? id = none) ∧
      (w.Recorded → (∀ move ∈ moves, move.Engages) → ∀ c, (Desk.mk m []).Stored (moves ++ [.shutdown]) c →
        (((Desk.mk m []).run moves).step .shutdown).manager.world.unbinds c.wire = 1)) := by
  have hd := Desk.run_balanced hcreate hmoves
  refine ⟨fun id c hc => ?_, fun hout hshutdown => ?_⟩
  · have hopen : ((Desk.mk m []).run moves).manager.isOpen id = true := by
      rw [isOpen, hc]
      rfl
    rcases hd.held id hopen with hmem | hmem | hmem | hmem
    · exact .inl hmem
    · exact .inr (.inl hmem)
    · exact .inr (.inr hmem)
    · cases hmem
  have hclosed := hd.closed_of_shutdown hout hshutdown
  refine ⟨hclosed, fun hw hengage c hstored => ?_⟩
  have hall : (Desk.mk m []).All Desk.Undisturbed (moves ++ [.shutdown]) :=
    Desk.all_append_iff.mpr ⟨hmoves, hshutdown, trivial⟩
  have hengage' : ∀ move ∈ moves ++ [.shutdown], move.Engages :=
    List.forall_mem_append.mpr ⟨hengage, List.forall_mem_singleton.mpr trivial⟩
  -- the shutdown is the last move of the run
  have haccounted := hstored.accounted (Desk.tallied_of_create hcreate hw) hall hengage'
  rw [Desk.run_append] at haccounted
  rcases haccounted with ⟨id, c', hc', -⟩ | hended
  · -- there is no handle left that could have it
    have hnone := (hclosed id).symm.trans hc'
    cases hnone
  · exact hended

/-! ### A run -/

/-- The shared handle gives way to a pool, and the pool to a shared handle again, while handles are out. The block over
the third connection is interrupted, and the request that ends the connection fails. -/
def Move.wandering : List Move :=
  [.start, .acquire, .use 0 (Desk.discard fun h => Exchange.authenticate h .plain "ada" "pearl"), .release 0,
    .reconfigure ⟨1, .ofService 2⟩, .acquire, .acquire,
    .outside World.ofService.directory [⟨some .unbind, 0, some (.client ⟨"LDAPSocketSendError", "broken pipe"⟩)⟩],
    .use 2 fun _ => throw (.interrupt ""), .abandon 2,
    .reconfigure ⟨2, .ofService 0⟩, .acquire, .release 1, .release 3]

/-- The third connection has been ended once all the same, and no handle has a connection any more. -/
theorem broken_connection_ended :
    ∃ m, ((Manager.create {} ⟨0, .ofService 0⟩).perform World.ofService).1 = .ok m ∧
      (∀ id, (((Desk.mk m []).run Move.wandering).step .shutdown).manager.connection? id = none) ∧
      ∃ c, (Desk.mk m []).Stored (Move.wandering ++ [.shutdown]) c ∧ c.wire = 3 ∧
        (((Desk.mk m []).run Move.wandering).step .shutdown).manager.world.unbinds 3 = 1 := by
  have hrun : (((Manager.create {} ⟨0, .ofService 0⟩).perform World.ofService).1.toOption.any fun m =>
      let d := (Desk.mk m []).run Move.wandering
      decide ((Desk.mk m []).All Desk.Undisturbed (Move.wandering ++ [.shutdown])) && decide (d.out = []) &&
        (((((Desk.mk m []).run (Move.wandering.take 6)).step .acquire).manager.connection? 2).any
          fun c => decide (c.wire = 3))) = true := by decide +kernel
  obtain ⟨m, hcreate, hrun⟩ := exists_ok_of_any hrun
  simp only [Bool.and_eq_true, Option.any_eq_true] at hrun
  obtain ⟨⟨hmoves, hout⟩, c, hc, hwire⟩ := hrun
  -- the moves before the shutdown are undisturbed, and nothing is out when it comes
  obtain ⟨hmoves, hshutdown, -⟩ := Desk.all_append_iff.mp (of_decide_eq_true hmoves)
  obtain ⟨hclosed, hended⟩ := (no_orphans hcreate hmoves).2 (of_decide_eq_true hout) hshutdown
  have hengage : ∀ move ∈ Move.wandering, move.Engages := by
    simp only [Move.wandering, List.forall_mem_cons, Move.Engages, true_and]
    exact ⟨fun h => Exchange.Orderly.authenticate.engages.map _, fun h => .throw _, List.forall_mem_nil _⟩
  -- the connection was stored by the last acquisition
  have hstored : (Desk.mk m []).Stored (Move.wandering ++ [.shutdown]) c :=
    ⟨Move.wandering.take 6, .acquire, Move.wandering.drop 7 ++ [.shutdown], rfl, _, List.mem_singleton_self _, 2, hc⟩
  have hrecorded : World.ofService.Recorded := List.forall_mem_nil _
  have hwire := of_decide_eq_true hwire
  refine ⟨m, hcreate, hclosed, c, hstored, hwire, ?_⟩
  rw [← hwire]
  exact hended hrecorded hengage c hstored

end DirectoryLogin

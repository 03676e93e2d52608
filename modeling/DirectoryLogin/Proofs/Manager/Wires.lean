import DirectoryLogin.Proofs.Manager.Invariants
import DirectoryLogin.Proofs.Manager.Steps
import DirectoryLogin.Proofs.Realm.NoOrphans
/-!
# A Wire of its Own for Every Connection

A connection gets a wire that nobody has had before, and keeps it. So two handles never have connections on one wire,
and what has been sent on the wire of a connection was sent over this connection. Interrupts do not matter for it.

- `Manager.Wired`: every connection has a wire of its own.
- `Manager.Step.wired`, `Manager.Advances.wired`: what every step keeps, and so any steps.
- `Desk.run_wired`: it holds after any proper run from a new manager.
-/

namespace DirectoryLogin

namespace Manager

/-- Every connection in a handle has a wire of its own. -/
structure Wired (m : Manager) : Prop where
  wired : ∀ id c, m.connection? id = some c → c.wire ≤ m.world.wires.length
  apart : ∀ id c other d, m.connection? id = some c → m.connection? other = some d → c.wire = d.wire → id = other

variable {m m' : Manager} {next : Snapshot → Prop}

/-! ## §1 Steps -/

/-- No handle gets a connection, unless it has one on the same wire. -/
theorem Wired.frame (hm : m.Wired)
    (hconnections : ∀ id c', m'.connection? id = some c' → ∃ c, m.connection? id = some c ∧ c'.wire = c.wire)
    (hlength : m.world.wires.length ≤ m'.world.wires.length) : m'.Wired where
  wired id c' hc' := by
    obtain ⟨c, hc, hwire⟩ := hconnections id c' hc'
    exact hwire ▸ Nat.le_trans (hm.wired id c hc) hlength
  apart id c' other d' hc' hd' hwires := by
    obtain ⟨c, hc, hwire⟩ := hconnections id c' hc'
    obtain ⟨d, hd, hwire'⟩ := hconnections other d' hd'
    exact hm.apart id c other d hc hd (hwire.symm.trans (hwires.trans hwire'))

/-- The handle of one id gets a connection on a new wire. -/
theorem Wired.opened (hm : m.Wired) {id : HandleId} {c : Connection}
    (hconnections : ∀ other d, m'.connection? other = some d →
      id = other ∧ some c = some d ∨ id ≠ other ∧ m.connection? other = some d)
    (hnew : m.world.wires.length < c.wire) (hlength : c.wire ≤ m'.world.wires.length) : m'.Wired := by
  -- whoever has another connection has had it before, on an older wire
  have hold {other : HandleId} {d : Connection} (hd : m.connection? other = some d) : d.wire < c.wire :=
    Nat.lt_of_le_of_lt (hm.wired other d hd) hnew
  refine ⟨fun other d hd => ?_, fun other d other' d' hd hd' hwires => ?_⟩
  · rcases hconnections other d hd with ⟨rfl, heq⟩ | ⟨-, hd⟩
    · cases heq
      exact hlength
    · exact Nat.le_trans (Nat.le_of_lt (hold hd)) hlength
  · rcases hconnections other d hd with ⟨rfl, heq⟩ | ⟨-, hd⟩
    · cases heq
      rcases hconnections other' d' hd' with ⟨rfl, -⟩ | ⟨-, hd'⟩
      · rfl
      · exact absurd hwires (Nat.ne_of_gt (hold hd'))
    · rcases hconnections other' d' hd' with ⟨rfl, heq⟩ | ⟨-, hd'⟩
      · cases heq
        exact absurd hwires (Nat.ne_of_lt (hold hd))
      · exact hm.apart other d other' d' hd hd' hwires

/-- The connection of a handle is used or ended: at most it stays on its wire. -/
theorem Wired.setConnection (hm : m.Wired) {id : HandleId} {c : Connection} (hc : m.connection? id = some c)
    {c? : Option Connection} (hwire : ∀ c', c? = some c' → c'.wire = c.wire) {w : World}
    (hlength : w.wires.length = m.world.wires.length) : Wired { m.setConnection id c? with world := w } := by
  refine hm.frame (fun other d hd => ?_) (Nat.le_of_eq hlength.symm)
  rcases of_connection?_setConnection hd with ⟨rfl, heq⟩ | ⟨-, hd⟩
  · exact ⟨c, hc, hwire d heq⟩
  · exact ⟨d, hd, rfl⟩

/-- **Every step** leaves connections on wires of their own. -/
theorem Step.wired (h : Step next m m') (hm : m.Wired) : m'.Wired := by
  cases h with
  | books _ _ _ hconnections hworld =>
    -- no handle has got another connection
    obtain ⟨journal, hworld⟩ := hworld
    refine hm.frame (fun id c hc => ⟨c, (hconnections id).symm.trans hc, rfl⟩) ?_
    rw [hworld]
  | used id c ch hc huses =>
    -- the connection that was used keeps its wire
    refine hm.setConnection hc (fun c' heq => ?_) huses.world.length
    cases heq
    exact huses.wire
  | ended id c hc =>
    -- the handle loses its connection
    exact hm.setConnection hc (by rintro _ ⟨⟩) (Exchange.close_proceeds ⟨c, m.world⟩).world.length
  | interrupted id c hc =>
    refine hm.setConnection hc (fun c' heq => ?_) (Exchange.close_proceeds ⟨c, m.world⟩).world.length
    cases heq
    exact (Exchange.close_proceeds ⟨c, m.world⟩).wire
  | opened id s c w hopen =>
    -- the one new wire is behind all that there were
    obtain ⟨w₀, hgrows, hwire, hengages⟩ := Connection.establish_engages hopen
    have hlength : w.wires.length = w₀.wires.length + 1 := hengages.length.trans w₀.length_withNewWire
    have hgrown := hgrows.length
    refine hm.opened (fun other d hd => of_connection?_setConnection hd) (by omega) ?_
    change c.wire ≤ w.wires.length
    omega
  | failed s e w hopen =>
    have hgrows : World.Grows m.world w :=
      (Connection.establish_respects (Connection.openWith_grows _ _) World.say_grows _).of_perform hopen
    exact hm.frame (fun id c hc => ⟨c, hc, rfl⟩) hgrows.length
  | activated => exact hm.frame (fun id c hc => ⟨c, hc, rfl⟩) (Nat.le_refl _)

/-- **Any steps** do. -/
theorem Advances.wired (h : Advances next m m') (hm : m.Wired) : m'.Wired := by
  induction h with
  | refl => exact hm
  | tail _ hstep ih => exact hstep.wired ih

end Manager

/-! ## §2 Runs -/

namespace Desk

open Manager Managed

variable {d : Desk} {move : Move} {moves : List Move}

/-- **Every move** leaves connections on wires of their own, if it does not end them behind the manager's back. -/
theorem step_wired (hengages : move.Engages) (hd : d.manager.Wired) : (d.step move).manager.Wired := by
  -- every move but a call made by others is a program that advances
  have hsteps {α : Type} {x : Managed α} {f : α → Option HandleId} (hprogram : move.program = f <$> x)
      (hx : x.Respects (Advances fun _ => True)) : (d.step move).manager.Wired := by
    rw [manager_step, hprogram]
    exact ((hx.map f) d.manager).wired hd
  cases move with
  | acquire => exact hsteps rfl acquire_advances
  | release id => exact hsteps rfl (release_advances id)
  | close id => exact hsteps rfl (close_advances id)
  | abandon id => exact hsteps rfl (.bind (close_advances id) fun _ => drainPool_advances)
  | drainPool => exact hsteps rfl drainPool_advances
  | start => exact hsteps rfl start_advances
  | shutdown => exact hsteps rfl shutdown_advances
  | reconfigure snapshot => exact hsteps rfl (reconfigure_advances trivial)
  | write message => exact hsteps rfl (write_advances message)
  | outside directory faults => exact hd.frame (fun id c hc => ⟨c, hc, rfl⟩) (Nat.le_refl _)
  | use id x =>
    rw [step_of_program (x := onHandle id x) rfl]
    -- a handle without a connection is not used at all
    rcases hc : d.manager.connection? id with _ | c
    · obtain ⟨e, hrun⟩ := perform_onHandle_of_closed hc x
      rw [hrun]
      exact hd
    · obtain ⟨h, hid, hopen⟩ := of_connection?_eq_some hc
      have hrun := hengages h ⟨c, d.manager.world⟩
      rw [perform_onHandle_of_open hid hopen]
      refine hd.setConnection hc (fun c' heq => ?_) hrun.world.length
      cases heq
      exact hrun.wire

/-- **After every run** from a new manager, connections are on wires of their own. -/
theorem run_wired {registry : Registry} {snapshot : Snapshot} {w : World} {m : Manager}
    (hcreate : ((Manager.create registry snapshot).perform w).1 = .ok m) (hengage : ∀ move ∈ moves, move.Engages) :
    ((Desk.mk m []).run moves).manager.Wired := by
  -- a manager that was just made has no handle, so none with a wire
  have hnew : m.Wired := by
    obtain ⟨hhandles, -⟩ := created hcreate
    have hnone (id : HandleId) (c : Connection) : m.connection? id ≠ some c := by
      rw [Manager.connection?, Manager.handle?, hhandles]
      exact (Option.some_ne_none c).symm
    exact ⟨fun id c hc => absurd hc (hnone id c), fun id c _ _ hc => absurd hc (hnone id c)⟩
  -- and each move keeps what holds of the wires
  have hrun {d : Desk} (hd : d.manager.Wired) : (d.run moves).manager.Wired := by
    induction moves generalizing d with
    | nil => exact hd
    | cons move rest ih =>
      have hfirst := step_wired (hengage move List.mem_cons_self) hd
      exact ih (fun later hlater => hengage later (List.mem_cons_of_mem move hlater)) hfirst
  exact hrun hnew

end Desk

end DirectoryLogin

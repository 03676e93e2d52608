import DirectoryLogin.Proofs.Connection.Unbinding
import DirectoryLogin.Proofs.Manager.Operations
import DirectoryLogin.Proofs.Session.Concluding
/-!
# Accounting for Connections

A connection is known by its wire. As long as a handle has it, nothing has been ended on the wire; from the moment it
is in no handle any more, its end has been requested once, and no other connection ever gets the wire. An operation of
the manager that is not interrupted accounts for every connection in this way.

- `Manager.Tallied`: what is true of connections and wires at any time.
- `Manager.Accounts`: what may become of them.
- `Managed.…_accounts`: one lemma for each operation.
-/

namespace DirectoryLogin

open Session (Concludes)

namespace Manager

variable {m m' m'' : Manager} {id : HandleId} {c : Connection} {n : Nat}

/-! ## §1 Connections and wires -/

/-- A handle has the connection on a wire. -/
def Holds (m : Manager) (n : Nat) : Prop :=
  ∃ id c, m.connection? id = some c ∧ c.wire = n

/-- Every connection in a handle has a wire of its own, on which nothing has been ended. -/
structure Tallied (m : Manager) : Prop where
  recorded : m.world.Recorded
  wired : ∀ id c, m.connection? id = some c → c.wire ≤ m.world.wires.length
  alone : ∀ id id' c c', m.connection? id = some c → m.connection? id' = some c' → c.wire = c'.wire → id = id'
  fresh : ∀ id c, m.connection? id = some c → m.world.unbinds c.wire = 0

/-- A connection that was in a handle is still in one, or has been ended once. On the other wires that were there
nothing is ended. -/
structure Accounted (m m' : Manager) : Prop where
  tallied : m'.Tallied
  length : m.world.wires.length ≤ m'.world.wires.length
  ended : ∀ n, m.Holds n → m'.Holds n ∨ m'.world.unbinds n = 1
  gone : ∀ n, n ≤ m.world.wires.length → ¬ m.Holds n → ¬ m'.Holds n ∧ m'.world.unbinds n = m.world.unbinds n

/-- Connections are accounted for, if they were before. -/
def Accounts (m m' : Manager) : Prop :=
  m.Tallied → Accounted m m'

theorem Tallied.unbinds_of_holds (hm : m.Tallied) (h : m.Holds n) : m.world.unbinds n = 0 := by
  obtain ⟨id, c, hc, rfl⟩ := h
  exact hm.fresh id c hc

theorem Tallied.le_of_holds (hm : m.Tallied) (h : m.Holds n) : n ≤ m.world.wires.length := by
  obtain ⟨id, c, hc, rfl⟩ := h
  exact hm.wired id c hc

instance : IsPreorder Manager Accounts where
  refl _ := fun hm => ⟨hm, Nat.le_refl _, fun _ h => .inl h, fun _ _ h => ⟨h, rfl⟩⟩
  trans m₁ m₂ m₃ h g := by
    intro hm
    have h := h hm
    have g := g h.tallied
    refine ⟨g.tallied, Nat.le_trans h.length g.length, fun n hn => ?_, fun n hle hn => ?_⟩
    · rcases h.ended n hn with hheld | hended
      · exact g.ended n hheld
      · -- what has been ended is in no handle, and stays ended
        have hnot : ¬ m₂.Holds n := fun hheld => by
          rw [h.tallied.unbinds_of_holds hheld] at hended
          cases hended
        have hle := Nat.le_trans (hm.le_of_holds hn) h.length
        exact .inr ((g.gone n hle hnot).2.trans hended)
    · obtain ⟨hnot, hsame⟩ := h.gone n hle hn
      obtain ⟨hnot', hsame'⟩ := g.gone n (Nat.le_trans hle h.length) hnot
      exact ⟨hnot', hsame'.trans hsame⟩

namespace Accounts

/-! ### Steps -/

/-- The same connections are in the same handles, and what happens in the world is not about their wires. -/
theorem ofGrows (hconnection : ∀ id, m'.connection? id = m.connection? id) (hgrows : World.Grows m.world m'.world) :
    Accounts m m' := by
  intro hm
  -- the handles hold the same wires as before
  have hholds (n : Nat) : m'.Holds n ↔ m.Holds n := by
    unfold Holds
    simp only [hconnection]
  -- what is on record can only have grown, and no wire of a handle was unbound
  refine ⟨⟨hm.recorded.grows hgrows, ?_, ?_, ?_⟩, hgrows.length, fun n h => .inl ((hholds n).mpr h), ?_⟩
  · intro id c hc
    rw [hconnection] at hc
    exact Nat.le_trans (hm.wired id c hc) hgrows.length
  · intro id id' c c' hc hc'
    rw [hconnection] at hc hc'
    exact hm.alone id id' c c' hc hc'
  · intro id c hc
    rw [hconnection] at hc
    rw [hgrows.unbinds (hm.wired id c hc)]
    exact hm.fresh id c hc
  · intro n hle hn
    exact ⟨fun h => hn ((hholds n).mp h), hgrows.unbinds hle⟩

/-- Nothing is sent, and no handle gets or loses a connection. -/
theorem ofFrame (hconnection : ∀ id, m'.connection? id = m.connection? id)
    (hwires : m'.world.wires = m.world.wires) (hevents : m'.world.events = m.world.events) : Accounts m m' :=
  ofGrows hconnection
    ⟨Nat.le_of_eq (congrArg List.length hwires.symm), [], List.forall_mem_nil _, by rw [hevents, List.append_nil]⟩

/-- A connection is used. -/
theorem ofUse (hc : m.connection? id = some c) {c' : Connection} {w : World}
    (hengages : Channel.Engages ⟨c, m.world⟩ ⟨c', w⟩)
    (hconnection : ∀ other, m'.connection? other = if other = id then some c' else m.connection? other)
    (hworld : m'.world = w) : Accounts m m' := by
  intro hm
  subst hworld
  obtain ⟨hwire, hworld⟩ := hengages
  have hwire : c'.wire = c.wire := hwire
  have hworld : World.Engages c.wire m.world m'.world := hworld
  -- a connection of the new state was there before, on the same wire
  have hbefore (other : HandleId) (d : Connection) (hd : m'.connection? other = some d) :
      ∃ d₀, m.connection? other = some d₀ ∧ d₀.wire = d.wire := by
    rw [hconnection] at hd
    split at hd
    · rename_i heq
      cases hd
      exact ⟨c, heq ▸ hc, hwire.symm⟩
    · exact ⟨d, hd, rfl⟩
  -- and none that was there is gone, since the handle keeps its wire
  have hafter (n : Nat) (h : m.Holds n) : m'.Holds n := by
    obtain ⟨other, d, hd, rfl⟩ := h
    by_cases heq : other = id
    · rw [heq, hc, Option.some.injEq] at hd
      refine ⟨id, c', ?_, ?_⟩
      · rw [hconnection, if_pos rfl]
      · rw [hwire, hd]
    · refine ⟨other, d, ?_, rfl⟩
      rw [hconnection, if_neg heq]
      exact hd
  refine ⟨⟨hm.recorded.engages hworld (hm.wired id c hc), ?_, ?_, ?_⟩, Nat.le_of_eq hworld.length.symm,
    fun n h => .inl (hafter n h), fun n _ hn => ⟨?_, hworld.unbinds n⟩⟩
  · intro other d hd
    obtain ⟨d₀, hd₀, hsame⟩ := hbefore other d hd
    rw [← hsame, hworld.length]
    exact hm.wired other d₀ hd₀
  · intro other other' d d' hd hd' heq
    obtain ⟨d₀, hd₀, hsame⟩ := hbefore other d hd
    obtain ⟨d₀', hd₀', hsame'⟩ := hbefore other' d' hd'
    exact hm.alone other other' d₀ d₀' hd₀ hd₀' (by rw [hsame, hsame', heq])
  · intro other d hd
    obtain ⟨d₀, hd₀, hsame⟩ := hbefore other d hd
    rw [hworld.unbinds, ← hsame]
    exact hm.fresh other d₀ hd₀
  · rintro ⟨other, d, hd, rfl⟩
    obtain ⟨d₀, hd₀, hsame⟩ := hbefore other d hd
    exact hn ⟨other, d₀, hd₀, hsame⟩

/-- A connection is ended, and its handle forgets it. -/
theorem ofEnd (hc : m.connection? id = some c)
    (hconnection : ∀ other, m'.connection? other = if other = id then none else m.connection? other)
    (hlength : m'.world.wires.length = m.world.wires.length)
    (hevents : m'.world.events = m.world.events ++ [⟨c.wire, .unbind⟩]) : Accounts m m' := by
  intro hm
  -- one more end is on record, for the wire of this connection
  have hunbinds (n : Nat) : m'.world.unbinds n = m.world.unbinds n + if n = c.wire then 1 else 0 := by
    rw [World.unbinds, hevents, List.countP_append, List.countP_singleton]
    by_cases heq : n = c.wire
    · simp [heq, World.unbinds, Request.isUnbind]
    · simp [heq, Ne.symm heq, World.unbinds]
  have hbefore (other : HandleId) (d : Connection) (hd : m'.connection? other = some d) :
      other ≠ id ∧ m.connection? other = some d := by
    rw [hconnection] at hd
    split at hd
    · cases hd
    · exact ⟨‹_›, hd⟩
  refine ⟨⟨?_, ?_, ?_, ?_⟩, Nat.le_of_eq hlength.symm, ?_, ?_⟩
  · intro e he
    rw [hevents] at he
    rw [hlength]
    rcases List.mem_append.mp he with hold | hnew
    · exact hm.recorded e hold
    · rw [List.mem_singleton.mp hnew]
      exact hm.wired id c hc
  · intro other d hd
    rw [hlength]
    exact hm.wired other d (hbefore other d hd).2
  · intro other other' d d' hd hd'
    exact hm.alone other other' d d' (hbefore other d hd).2 (hbefore other' d' hd').2
  · -- the other connections have other wires
    intro other d hd
    obtain ⟨hne, hd⟩ := hbefore other d hd
    have hwire : d.wire ≠ c.wire := fun heq => hne (hm.alone other id d c hd hc heq)
    rw [hunbinds, if_neg hwire]
    exact hm.fresh other d hd
  · -- the connection that was ended had not been ended before
    rintro n ⟨other, d, hd, rfl⟩
    by_cases heq : other = id
    · right
      rw [heq, hc, Option.some.injEq] at hd
      rw [hunbinds, ← hd, if_pos rfl, hm.fresh id c hc]
    · left
      refine ⟨other, d, ?_, rfl⟩
      rw [hconnection, if_neg heq]
      exact hd
  · intro n hle hn
    have hwire : n ≠ c.wire := fun heq => hn ⟨id, c, hc, heq.symm⟩
    refine ⟨?_, by rw [hunbinds, if_neg hwire, Nat.add_zero]⟩
    rintro ⟨other, d, hd, rfl⟩
    exact hn ⟨other, d, (hbefore other d hd).2, rfl⟩

/-- A closed handle gets a new connection. -/
theorem ofOpen (hclosed : m.connection? id = none) {w₀ : World} (hgrows : World.Grows m.world w₀)
    (hengaged : Connection.Engaged w₀ c m'.world)
    (hconnection : ∀ other, m'.connection? other = if other = id then some c else m.connection? other) :
    Accounts m m' := by
  intro hm
  obtain ⟨hwire, hworld⟩ := hengaged
  have hrecorded₀ := hm.recorded.grows hgrows
  have hnext : World.Recorded w₀.withNewWire := by
    intro e he
    rw [World.length_withNewWire]
    exact Nat.le_succ_of_le (hrecorded₀ e he)
  have hlast : w₀.wires.length + 1 ≤ w₀.withNewWire.wires.length := Nat.le_of_eq w₀.length_withNewWire.symm
  have hlength : m'.world.wires.length = w₀.wires.length + 1 := hworld.length.trans w₀.length_withNewWire
  have hle := hgrows.length
  -- nothing that is counted has happened, neither on the new wire nor on one that was there
  have hsame (n : Nat) : m'.world.unbinds n = w₀.unbinds n := hworld.unbinds n
  have hold (n : Nat) (hn : n ≤ m.world.wires.length) : m'.world.unbinds n = m.world.unbinds n := by
    rw [hsame, hgrows.unbinds hn]
  have hbefore (other : HandleId) (d : Connection) (hd : m'.connection? other = some d) :
      (other = id ∧ d = c) ∨ (m.connection? other = some d ∧ d.wire ≤ m.world.wires.length) := by
    rw [hconnection] at hd
    split at hd
    · cases hd
      exact .inl ⟨‹_›, rfl⟩
    · exact .inr ⟨hd, hm.wired other d hd⟩
  refine ⟨⟨hnext.engages hworld hlast, ?_, ?_, ?_⟩, by omega, ?_, ?_⟩
  · intro other d hd
    rcases hbefore other d hd with ⟨-, rfl⟩ | ⟨-, hd⟩
    · omega
    · omega
  · intro other other' d d' hd hd' heq
    rcases hbefore other d hd with ⟨rfl, rfl⟩ | ⟨hd, hwired⟩
    · rcases hbefore other' d' hd' with ⟨rfl, -⟩ | ⟨-, hwired'⟩
      · rfl
      · omega
    · rcases hbefore other' d' hd' with ⟨-, rfl⟩ | ⟨hd', -⟩
      · omega
      · exact hm.alone other other' d d' hd hd' heq
  · intro other d hd
    rcases hbefore other d hd with ⟨-, rfl⟩ | ⟨hd, hwired⟩
    · rw [hsame]
      exact hrecorded₀.unbinds_eq_zero (by omega)
    · rw [hold _ hwired]
      exact hm.fresh other d hd
  · rintro n ⟨other, d, hd, rfl⟩
    left
    have hne : other ≠ id := by
      rintro rfl
      rw [hclosed] at hd
      cases hd
    refine ⟨other, d, ?_, rfl⟩
    rw [hconnection, if_neg hne]
    exact hd
  · intro n hn hnot
    refine ⟨?_, hold n hn⟩
    rintro ⟨other, d, hd, rfl⟩
    rcases hbefore other d hd with ⟨-, rfl⟩ | ⟨hd, -⟩
    · omega
    · exact hnot ⟨other, d, hd, rfl⟩

end Accounts

end Manager

namespace Managed

open Manager

variable {α : Type} {m m' : Manager} {id : HandleId}

/-! ## §2 Operations -/

theorem books_accounts {f : Manager → Manager} (hhandles : ∀ m, (f m).handles = m.handles)
    (hworld : ∀ m, (f m).world = m.world) : Session.Respects Accounts (modify f) := by
  refine .modify fun m => .ofFrame (fun id => ?_) (by rw [hworld]) (by rw [hworld])
  rw [Manager.connection?, Manager.connection?, Manager.handle?, Manager.handle?, hhandles]

theorem write_accounts (message : Message) : (onWorld (modify (·.write message))).Respects Accounts :=
  fun _ => .ofFrame (fun _ => rfl) rfl rfl

theorem lock_accounts : lock.Respects Accounts := by
  refine .bind_get fun m => ?_
  split
  · exact refl_of Accounts m
  · exact .ofFrame (fun _ => rfl) rfl rfl

theorem unlock_accounts : unlock.Respects Accounts := by
  refine .bind_get fun m => ?_
  split
  · exact refl_of Accounts m
  · exact .ofFrame (fun _ => rfl) rfl rfl

theorem unlockFor_accounts (id : HandleId) : (unlockFor id).Respects Accounts := by
  refine .bind_get fun m => ?_
  split
  · exact unlock_accounts m
  · exact refl_of Accounts m

theorem newHandle_accounts (snapshot : Snapshot) (pooled : Bool) : (newHandle snapshot pooled).Respects Accounts := by
  intro m
  rcases newHandle_makes snapshot pooled m with ⟨h, hrun, -, -, hclosed⟩ | ⟨e, he, hrun⟩
  · rw [hrun]
    exact .ofFrame (fun other => connection?_newHandle m hclosed other) rfl rfl
  · rw [hrun]
    exact refl_of Accounts m

/-- **Closing a handle** ends its connection. -/
theorem closeConnection_accounts (id : HandleId) : Concludes Accounts (closeConnection id) := by
  intro m hordinary
  rcases hc : m.connection? id with _ | c
  · rw [perform_closeConnection_of_closed hc]
    exact refl_of Accounts m
  · -- closing succeeds, or ends in what is not ordinary, which was excluded
    rcases closeConnection_run hc with ⟨w, hrun, hlength, hevents⟩ | ⟨e, m', hrun, he⟩
    · rw [hrun]
      refine .ofEnd hc (fun other => ?_) hlength hevents
      refine (connection?_setConnection m id other none).trans ?_
      rw [Option.bind_fun_none]
    · rw [hrun] at hordinary
      have hcaught := hordinary e rfl
      rw [he] at hcaught
      cases hcaught

theorem forM_closeConnection_accounts (ids : List HandleId) : Concludes Accounts (ids.forM closeConnection) :=
  .forM closeConnection_accounts ids

/-- **Opening a closed handle** gives it a connection on a wire of its own. -/
theorem openHandle_accounts (hclosed : m.connection? id = none) : Accounts m ((openHandle id).perform m).2 := by
  rcases hid : m.handle? id with _ | h
  · rw [perform_openHandle_of_none hid]
    exact refl_of Accounts m
  rw [perform_openHandle hid]
  rcases hrun : (Connection.establish m.connector m.tls h.settings).perform m.world with ⟨e | c, w⟩
  · -- nothing but the world has changed, and it has only grown
    have hgrows : World.Grows m.world w :=
      (Connection.establish_respects (Connection.openWith_grows _ _) World.say_grows _).of_perform hrun
    exact .ofGrows (fun _ => rfl) hgrows
  · -- the handle now holds the one wire that is new
    obtain ⟨w₀, hgrows, hengaged⟩ := Connection.establish_engages hrun
    refine .ofOpen hclosed hgrows hengaged fun other => ?_
    refine (connection?_setConnection m id other (some c)).trans ?_
    rw [hid, Option.bind_some]

/-- **Using a handle** without ending its connection. -/
theorem onHandle_accounts (id : HandleId) {x : Handle → Exchange α} (hx : ∀ h, (x h).Respects Channel.Engages) :
    (onHandle id x).Respects Accounts := by
  intro m
  rcases hc : m.connection? id with _ | c
  · obtain ⟨e, hrun⟩ := perform_onHandle_of_closed hc x
    rw [hrun]
    exact refl_of Accounts m
  · obtain ⟨h, hid, hopen⟩ := of_connection?_eq_some hc
    rw [perform_onHandle_of_open hid hopen]
    refine .ofUse hc (hx h ⟨c, m.world⟩) (fun other => ?_) rfl
    refine (connection?_setConnection m id other (some _)).trans ?_
    rw [hid, Option.bind_some]

/-! ### Acquiring and giving back -/

theorem shareNew_accounts (snapshot : Snapshot) : (shareNew snapshot).Respects Accounts := by
  intro m
  have hforget : Accounts m { m with ready := none } := .ofFrame (fun _ => rfl) rfl rfl
  have hshare (id : HandleId) : Session.Respects Accounts (do
      modify fun m : Manager => { m with shared := some id }
      return id) := .bind (books_accounts (fun _ => rfl) fun _ => rfl) fun _ => .pure _
  rw [shareNew, Session.perform_bind_of_ok (Session.perform_get m),
    Session.perform_bind_of_ok (Session.perform_set m _)]
  refine trans_of Accounts hforget ?_
  -- the handle may be the one that is ready, or a new one
  rcases m.readyFor? snapshot with _ | id
  · exact Session.Respects.bind (newHandle_accounts snapshot false) hshare _
  · exact Session.Respects.bind (.pure id) hshare _

theorem sharedHandle_accounts (snapshot : Snapshot) : Concludes Accounts (sharedHandle snapshot) := by
  intro m hordinary
  rw [perform_sharedHandle] at hordinary ⊢
  split
  · exact refl_of Accounts m
  · rename_i hnone
    rw [hnone] at hordinary
    have hshare : Concludes Accounts (m.shared.toList.forM closeConnection >>= fun _ => shareNew snapshot) :=
      .bind (forM_closeConnection_accounts _) fun _ => (shareNew_accounts snapshot).concludes
    exact hshare m hordinary

theorem takeHandle_accounts : Concludes Accounts takeHandle := by
  refine .bind_get fun m hordinary => ?_
  rcases hpool : m.pool with _ | pool
  · simp only [hpool] at hordinary ⊢
    -- the shared handle is taken under the mutex, which is given back after a failure
    have hshared : Concludes Accounts
        (lock >>= fun _ => (sharedHandle m.active).onFailure Failure.isOrdinary fun _ => unlock) :=
      .bind lock_accounts.concludes fun _ =>
        .onFailure (sharedHandle_accounts _) fun _ => unlock_accounts.concludes
    exact hshared m hordinary
  · rcases hpop : pool.pop? with _ | ⟨id, rest⟩
    · simp only [hpop]
      exact newHandle_accounts _ _ m
    · simp only [hpop]
      exact .ofFrame (fun _ => rfl) rfl rfl

/-- **Acquiring a handle** opens it only if it is closed, so that no connection gets lost. -/
theorem acquire_accounts : Concludes Accounts acquire := by
  rw [acquire_eq]
  -- taking a handle may close the one that was shared, but opens none
  refine .bind takeHandle_accounts fun id => .bind_get fun m hordinary => ?_
  split
  · rename_i hnone
    have hopen : Accounts m ((openHandle id).perform m).2 :=
      openHandle_accounts (Option.isNone_iff_eq_none.mp hnone)
    -- after a failure to open, the mutex is given back, which concerns no connection
    have htry : Accounts m
        (((openHandle id).onFailure Failure.isOrdinary fun _ => unlockFor id).perform m).2 := by
      rw [Session.perform_onFailure]
      rcases hrun : (openHandle id).perform m with ⟨e | _, m₁⟩
      · rw [hrun] at hopen
        by_cases he : e.isOrdinary = true
        · simp only [he, if_true]
          have hunlock := trans_of Accounts hopen (unlockFor_accounts id m₁)
          rcases hback : (unlockFor id).perform m₁ with ⟨_ | _, m₂⟩
          · rwa [hback] at hunlock
          · rwa [hback] at hunlock
        · simp only [he]
          exact hopen
      · rw [hrun] at hopen
        exact hopen
    rw [Session.perform_bind]
    rcases hrun : ((openHandle id).onFailure Failure.isOrdinary fun _ => unlockFor id).perform m with ⟨_ | _, m₁⟩
    · rw [hrun] at htry
      exact htry
    · rw [hrun] at htry
      exact htry
  · exact refl_of Accounts m

theorem close_accounts (id : HandleId) : Concludes Accounts (close id) := by
  rw [close_eq]
  exact .bind (closeConnection_accounts id) fun _ => (unlockFor_accounts id).concludes

theorem release_accounts (id : HandleId) : Concludes Accounts (release id) := by
  refine .bind_get fun m hordinary => ?_
  -- only an old or surplus handle is closed
  rcases hpooled : m.isPooled id with _ | _
  · simp only [hpooled, Bool.false_eq_true, if_false] at hordinary ⊢
    rcases hcurrent : m.isCurrent id with _ | _
    · simp only [hcurrent, Bool.not_false, if_true] at hordinary ⊢
      have hclose : Concludes Accounts (closeConnection id >>= fun _ => unlock) :=
        .bind (closeConnection_accounts id) fun _ => unlock_accounts.concludes
      exact hclose m hordinary
    · exact unlock_accounts m
  · simp only [hpooled, if_true] at hordinary ⊢
    rcases hpush : (if m.isCurrent id then m.pool.bind (·.push? id) else none) with _ | pool
    · simp only [hpush] at hordinary ⊢
      exact closeConnection_accounts id m hordinary
    · exact .ofFrame (fun _ => rfl) rfl rfl

/-! ### Everything else -/

theorem drainPool_accounts : Concludes Accounts drainPool := by
  refine .bind_get fun m hordinary => ?_
  rcases hpool : m.pool with _ | pool
  · exact refl_of Accounts m
  · simp only [hpool] at hordinary ⊢
    have hempty : Accounts m { m with pool := some pool.drain.2 } := .ofFrame (fun _ => rfl) rfl rfl
    rw [Session.perform_bind_of_ok (Session.perform_set m _)] at hordinary ⊢
    exact trans_of Accounts hempty (forM_closeConnection_accounts _ _ hordinary)

theorem closeShared_accounts : Concludes Accounts closeShared := by
  refine .bind lock_accounts.concludes fun _ => .bind_get fun m hordinary => ?_
  -- forgetting handles concerns no connection; closing them does
  have hforget : Accounts m { m with shared := none, ready := none, isLocked := false } :=
    .ofFrame (fun _ => rfl) rfl rfl
  rw [Session.perform_bind_of_ok (Session.perform_set m _)] at hordinary ⊢
  have hclose : Concludes Accounts
      (m.shared.toList.forM closeConnection >>= fun _ => m.ready.toList.forM closeConnection) :=
    .bind (forM_closeConnection_accounts _) fun _ => forM_closeConnection_accounts _
  exact trans_of Accounts hforget (hclose _ hordinary)

theorem shutdown_accounts : Concludes Accounts shutdown :=
  .bind closeShared_accounts fun _ => drainPool_accounts

/-- **Starting** gives back what it has acquired. -/
theorem acquire_start_accounts (h : FailsOrdinarily (start.perform m).1) :
    FailsOrdinarily (acquire.perform m).1 ∧ Accounts (acquire.perform m).2 (start.perform m).2 := by
  rw [perform_start] at h ⊢
  generalize acquire.perform m = run at h ⊢
  rcases run with ⟨e | id, m₁⟩
  · by_cases he : e.isOrdinary = true
    · simp only [he, if_true]
      exact ⟨.error he, .ofFrame (fun _ => rfl) rfl rfl⟩
    · simp only [he] at h
      exact absurd (h e rfl) he
  · exact ⟨.ok id, release_accounts id m₁ h⟩

theorem start_accounts : Concludes Accounts start := by
  intro m h
  obtain ⟨hacquire, hrest⟩ := acquire_start_accounts h
  exact trans_of Accounts (acquire_accounts m hacquire) hrest

theorem retire_accounts (pool : Option (Pool HandleId)) (s : Settings) : Concludes Accounts (retire pool s) := by
  refine .bind (forM_closeConnection_accounts _) fun _ => ?_
  split
  · exact .bind closeShared_accounts fun _ => (write_accounts _).concludes
  · exact (write_accounts _).concludes

/-- **New settings** end the connections that were idle, and the shared one if there is a pool from now on. -/
theorem reconfigure_accounts (snapshot : Snapshot) : Concludes Accounts (reconfigure snapshot) := by
  intro m hordinary
  rw [perform_reconfigure] at hordinary ⊢
  rcases hchosen : m.registry.collaborators snapshot.settings with e | chosen
  · exact refl_of Accounts m
  simp only [hchosen] at hordinary ⊢
  -- the notes of choosing the collaborators change nothing that is accounted for
  have hnotes : Session.Respects Accounts (chosen.notes.forM fun note => onWorld (modify (·.write note))) :=
    .forM write_accounts _
  have hrest : Concludes Accounts
      (chosen.notes.forM (fun note => onWorld (modify (·.write note))) >>= fun _ =>
        newHandle snapshot snapshot.settings.poolingEnabled >>= fun id => get >>= fun m =>
        set (activate snapshot chosen id m) >>= fun _ => retire m.pool snapshot.settings >>= fun _ => pure id) := by
    -- then a handle is made, the settings become the active ones, and what was pooled is retired
    refine .bind hnotes.concludes fun _ => .bind (newHandle_accounts _ _).concludes fun id => .bind_get fun m hrun => ?_
    have hactivate : Accounts m (activate snapshot chosen id m) := .ofFrame (fun _ => rfl) rfl rfl
    rw [Session.perform_bind_of_ok (Session.perform_set m _)] at hrun ⊢
    have hretire : Concludes Accounts (retire m.pool snapshot.settings >>= fun _ => (pure id : Managed HandleId)) :=
      .bind (retire_accounts _ _) fun _ => (Session.Respects.pure _).concludes
    exact trans_of Accounts hactivate (hretire _ hrun)
  exact hrest m hordinary

end Managed

end DirectoryLogin

import DirectoryLogin.Proofs.Manager.PoolIntegrity
import DirectoryLogin.Proofs.Manager.Wires
/-!
# Blocks that Fail

A block over a connection that ends with an exception, whatever it is, ends its handle's connection, gives the mutex
back if the handle was the shared one, and ends every idle connection. Errors on the way are only reported. An interrupt
is not: it ends the clean-up where it strikes. Then the mutex stays held if it struck the first request, and the
connections behind the one it struck are neither ended nor in the pool any more.

- `Managed.forM_closeConnection_ends`: closing handles in a row, up to the first interrupt.
- `Managed.abandon_ends`: the clean-up of a block.
- `cleanup_of_failed_block`: what it comes to, and when it is complete.
-/

namespace DirectoryLogin

/-! ## §1 Interrupts among requests -/

/-- The interrupt that strikes the next request of a kind, if one does. -/
def Fault.interrupt? (call : Call) (faults : List Fault) : Option Failure :=
  ((Fault.strike call faults).1.bind (·.failure)).filter fun e => !e.isOrdinary

/-- The first of so many requests of a kind that is interrupted, counted from zero, and the interrupt. -/
def Fault.firstInterrupt? (call : Call) : Nat → List Fault → Option (Nat × Failure)
  | 0, _ => none
  | n + 1, faults =>
    match interrupt? call faults with
    | some e => some (0, e)
    | none => (firstInterrupt? call n (Fault.strike call faults).2).map fun (k, e) => (k + 1, e)

/-- A request fails with the interrupt that strikes it. -/
theorem Fault.verdict_of_interrupt? {call : Call} {faults : List Fault} {e : Failure}
    (h : interrupt? call faults = some e) :
    verdict (strike call faults).1 = .error e ∧ e.isOrdinary = false := by
  rw [interrupt?, Option.filter_eq_some_iff, Bool.not_eq_true', Option.bind_eq_some_iff] at h
  obtain ⟨⟨fault, hfault, hfailure⟩, hordinary⟩ := h
  refine ⟨?_, hordinary⟩
  rw [hfault]
  unfold verdict
  dsimp only
  rw [hfailure]

/-- A request that is not interrupted goes through, is refused, or fails with an error. -/
theorem Fault.failsOrdinarily_of_interrupt? {call : Call} {faults : List Fault} (h : interrupt? call faults = none) :
    FailsOrdinarily (verdict (strike call faults).1) := by
  intro e he
  unfold verdict at he
  split at he
  · cases he
  · rename_i fault hfault
    split at he
    · rename_i failure hfailure
      cases he
      -- a failure that is not ordinary would be an interrupt
      by_contra hordinary
      rw [interrupt?, hfault, Option.bind_some, hfailure, Option.filter_some, if_pos (by simpa using hordinary)] at h
      cases h
    · cases he

/-- The request is one of them. -/
theorem Fault.lt_of_firstInterrupt? {call : Call} {n k : Nat} {faults : List Fault} {e : Failure}
    (h : firstInterrupt? call n faults = some (k, e)) : k < n := by
  induction n generalizing faults k with
  | zero => cases h
  | succ n ih =>
    rw [firstInterrupt?] at h
    split at h
    · cases h
      exact Nat.succ_pos n
    · obtain ⟨⟨j, e'⟩, hj, heq⟩ := Option.map_eq_some_iff.mp h
      cases heq
      exact Nat.succ_lt_succ (ih hj)

/-! ## §2 Connections that are ended -/

namespace Manager

/-- The requests that end the connections of some handles. -/
def ends (m : Manager) (ids : List HandleId) : List Event :=
  ids.filterMap fun id => (m.connection? id).map fun c => ⟨c.wire, .unbind⟩

/-- The connections of the handles `sent` have been requested to end, and the handles `closed` among them have given
theirs up. Nothing has become of the other handles. -/
structure Ended (m : Manager) (closed sent : List HandleId) (m' : Manager) : Prop where
  subset : closed ⊆ sent
  events : m'.world.events = m.world.events ++ m.ends sent
  givenUp : ∀ id ∈ closed, m'.connection? id = none
  stuck : ∀ id ∈ sent, id ∉ closed → m'.isOpen id = true
  others : ∀ id, id ∉ sent → m'.connection? id = m.connection? id

variable {m m' m₁ m₂ : Manager} {closed sent closed' sent' : List HandleId} {id : HandleId}

theorem Ended.refl (m : Manager) : Ended m [] [] m where
  subset := List.nil_subset _
  events := (List.append_nil _).symm
  givenUp := List.forall_mem_nil _
  stuck := List.forall_mem_nil _
  others _ _ := rfl

/-- More connections are ended. -/
theorem Ended.trans (h : Ended m closed sent m₁) (g : Ended m₁ closed' sent' m₂) (hnew : ∀ id ∈ sent', id ∉ sent) :
    Ended m (closed ++ closed') (sent ++ sent') m₂ where
  subset := List.append_subset.mpr ⟨List.subset_append_of_subset_left _ h.subset,
    List.subset_append_of_subset_right _ g.subset⟩
  events := by
    -- the requests of the second row do not depend on the first, which has touched other handles only
    have hsame : m₁.ends sent' = m.ends sent' :=
      List.filterMap_congr fun id hid => by rw [h.others id (hnew id hid)]
    rw [g.events, h.events, hsame, List.append_assoc, ends, ends, ends, ← List.filterMap_append]
  givenUp id hid := by
    -- a handle that was given up in the first row is left alone by the second
    rcases List.mem_append.mp hid with hid | hid
    · rw [g.others id fun hmem => hnew id hmem (h.subset hid), h.givenUp id hid]
    · exact g.givenUp id hid
  stuck id hid hopen := by
    rw [List.mem_append, not_or] at hopen
    rcases List.mem_append.mp hid with hid | hid
    · rw [isOpen, g.others id fun hmem => hnew id hmem hid]
      exact h.stuck id hid hopen.1
    · exact g.stuck id hid hopen.2
  others id hid := by
    rw [List.mem_append, not_or] at hid
    rw [g.others id hid.2, h.others id hid.1]

/-- What is done to the books is of no account. -/
theorem Ended.ofBooks (h : Ended m closed sent m₁) (hevents : m₂.world.events = m₁.world.events)
    (hconnections : ∀ id, m₂.connection? id = m₁.connection? id) : Ended m closed sent m₂ where
  subset := h.subset
  events := hevents.trans h.events
  givenUp id hid := (hconnections id).trans (h.givenUp id hid)
  stuck id hid hopen := by
    rw [isOpen, hconnections]
    exact h.stuck id hid hopen
  others id hid := (hconnections id).trans (h.others id hid)

end Manager

namespace Managed

open Manager

variable {m : Manager} {id : HandleId} {ids : List HandleId}

/-- **Closing one handle**: the request that ends its connection is sent. If it is interrupted, the handle keeps its
connection, and the interrupt goes on; any error is only reported. -/
theorem closeConnection_ends {c : Connection} (hc : m.connection? id = some c) :
    ∃ m', (closeConnection id).perform m =
        ((match Fault.interrupt? .unbind m.world.faults with | some e => .error e | none => .ok ()), m') ∧
      m'.world.faults = (Fault.strike .unbind m.world.faults).2 ∧
      Ended m (if (Fault.interrupt? .unbind m.world.faults).isSome then [] else [id]) [id] m' := by
  -- whatever becomes of the request, it is on record
  have hevents : (Exchange.close.perform ⟨c, m.world⟩).2.world.events = m.world.events ++ m.ends [id] := by
    have hends : m.ends [id] = [⟨c.wire, .unbind⟩] := by
      rw [ends, List.filterMap_cons, hc]
      rfl
    rw [Exchange.close_eq, World.unbindWire_eq, hends]
    exact congrArg (· ++ [(⟨c.wire, .unbind⟩ : Event)]) (World.updateWire_events _ _ _)
  have hfaults : (Exchange.close.perform ⟨c, m.world⟩).2.world.faults = (Fault.strike .unbind m.world.faults).2 := by
    rw [Exchange.close_eq, World.unbindWire_eq]
    exact congrArg (fun faults => (Fault.strike .unbind faults).2) (World.updateWire_faults _ _ _)
  have hresult : (Exchange.close.perform ⟨c, m.world⟩).1 =
      ((Fault.verdict (Fault.strike .unbind m.world.faults).1).map fun _ => ()).mapError
        (Failure.interpreted c.environment.throwsReferrals) := by
    rw [Exchange.close_eq, World.unbindWire_eq]
  have hothers (c? : Option Connection) (w : World) (other : HandleId) (hother : other ∉ [id]) :
      Manager.connection? { m.setConnection id c? with world := w } other = m.connection? other := by
    change (m.setConnection id c?).connection? other = _
    rw [connection?_setConnection, if_neg (by simpa using hother)]
  have hown (c? : Option Connection) (w : World) :
      Manager.connection? { m.setConnection id c? with world := w } id = c? := by
    obtain ⟨h, hid, -⟩ := of_connection?_eq_some hc
    change (m.setConnection id c?).connection? id = _
    rw [connection?_setConnection, if_pos rfl, hid]
    rfl
  have hgivenUp (w : World) (hw : w.events = m.world.events ++ m.ends [id]) :
      Ended m [id] [id] { m.setConnection id none with world := w } :=
    ⟨List.Subset.refl _, hw, by simpa using hown none w, fun _ hmem hnot => absurd hmem hnot, hothers none w⟩
  rw [perform_closeConnection_of_open hc]
  generalize Exchange.close.perform ⟨c, m.world⟩ = run at hevents hfaults hresult
  obtain ⟨result, ch⟩ := run
  dsimp only at hevents hfaults hresult
  subst hresult
  rcases hinterrupt : Fault.interrupt? .unbind m.world.faults with _ | e
  · have hordinary := Fault.failsOrdinarily_of_interrupt? hinterrupt
    rcases hverdict : Fault.verdict (Fault.strike .unbind m.world.faults).1 with e | passed
    · have he : (e.interpreted c.environment.throwsReferrals).isOrdinary = true :=
        (Failure.isOrdinary_interpreted _ e).trans (hordinary e hverdict)
      dsimp only [Except.map, Except.mapError]
      rw [if_pos he]
      exact ⟨_, rfl, hfaults, hgivenUp _ hevents⟩
    · exact ⟨_, rfl, hfaults, hgivenUp _ hevents⟩
  · obtain ⟨hverdict, hordinary⟩ := Fault.verdict_of_interrupt? hinterrupt
    have hsame : e.interpreted c.environment.throwsReferrals = e := by
      cases e with
      | client => cases hordinary
      | _ => rfl
    rw [hverdict]
    dsimp only [Except.map, Except.mapError]
    rw [hsame, if_neg (by simp [hordinary])]
    refine ⟨_, rfl, hfaults, List.nil_subset _, hevents, List.forall_mem_nil _, fun other hother _ => ?_, hothers _ _⟩
    rw [List.mem_singleton.mp hother, isOpen, hown]
    rfl

/-- The handles that give their connections up, and those whose connections are requested to end, if the first
interrupt is as given. -/
def closedUntil (stop : Option (Nat × Failure)) (ids : List HandleId) : List HandleId :=
  stop.elim ids fun (k, _) => ids.take k

@[inherit_doc closedUntil]
def sentUntil (stop : Option (Nat × Failure)) (ids : List HandleId) : List HandleId :=
  stop.elim ids fun (k, _) => ids.take (k + 1)

theorem closedUntil_succ (stop : Option (Nat × Failure)) (id : HandleId) (ids : List HandleId) :
    closedUntil (stop.map fun (k, e) => (k + 1, e)) (id :: ids) = id :: closedUntil stop ids := by
  rcases stop with _ | ⟨k, e⟩ <;> rfl

theorem sentUntil_succ (stop : Option (Nat × Failure)) (id : HandleId) (ids : List HandleId) :
    sentUntil (stop.map fun (k, e) => (k + 1, e)) (id :: ids) = id :: sentUntil stop ids := by
  rcases stop with _ | ⟨k, e⟩ <;> rfl

theorem sentUntil_subset (stop : Option (Nat × Failure)) (ids : List HandleId) : sentUntil stop ids ⊆ ids := by
  rcases stop with _ | ⟨k, e⟩
  · exact List.Subset.refl ids
  · exact List.take_subset (k + 1) ids

/-- **Closing handles in a row**, up to the first interrupt. -/
theorem forM_closeConnection_ends (hids : ids.Nodup) (m : Manager) :
    ∃ m', (ids.forM closeConnection).perform m =
        ((match Fault.firstInterrupt? .unbind (ids.filter m.isOpen).length m.world.faults with
          | some (_, e) => .error e
          | none => .ok ⟨⟩), m') ∧
      Ended m
        (closedUntil (Fault.firstInterrupt? .unbind (ids.filter m.isOpen).length m.world.faults) (ids.filter m.isOpen))
        (sentUntil (Fault.firstInterrupt? .unbind (ids.filter m.isOpen).length m.world.faults) (ids.filter m.isOpen))
        m' := by
  induction ids generalizing m with
  | nil => exact ⟨m, rfl, .refl m⟩
  | cons id rest ih =>
    obtain ⟨hid, hrest⟩ := List.nodup_cons.mp hids
    have hcons : (id :: rest).forM closeConnection = (closeConnection id >>= fun _ => rest.forM closeConnection) := rfl
    rw [hcons]
    rcases hc : m.connection? id with _ | c
    · -- a handle without a connection is passed over
      have hclosed : (id :: rest).filter m.isOpen = rest.filter m.isOpen :=
        List.filter_cons_of_neg (by simp [isOpen, hc])
      rw [Session.perform_bind_of_ok (perform_closeConnection_of_closed hc), hclosed]
      exact ih hrest m
    · have hopen : (id :: rest).filter m.isOpen = id :: rest.filter m.isOpen :=
        List.filter_cons_of_pos (by simp [isOpen, hc])
      obtain ⟨m₁, hrun, hfaults, hended⟩ := closeConnection_ends hc
      rw [hopen, List.length_cons, Fault.firstInterrupt?]
      rcases hinterrupt : Fault.interrupt? .unbind m.world.faults with _ | e
      · rw [hinterrupt] at hrun hended
        rw [Session.perform_bind_of_ok hrun]
        -- the rest is as open as before
        have hsame : rest.filter m₁.isOpen = rest.filter m.isOpen :=
          List.filter_congr fun other hother => by
            rw [isOpen, isOpen, hended.others other (by rintro hmem; exact hid (List.mem_singleton.mp hmem ▸ hother))]
        obtain ⟨m', hrun', hended'⟩ := ih hrest m₁
        rw [hsame, hfaults] at hrun' hended'
        dsimp only
        generalize Fault.firstInterrupt? .unbind (rest.filter m.isOpen).length _ = stop at hrun' hended' ⊢
        refine ⟨m', ?_, ?_⟩
        · rw [hrun']
          rcases stop with _ | ⟨k, e⟩ <;> rfl
        · rw [closedUntil_succ, sentUntil_succ]
          refine hended.trans hended' fun other hother hmem => ?_
          have hlater := List.mem_of_mem_filter (sentUntil_subset stop _ hother)
          exact hid (List.mem_singleton.mp hmem ▸ hlater)
      · rw [hinterrupt] at hrun hended
        exact ⟨m₁, Session.perform_bind_of_error hrun _, hended⟩

end Managed

/-! ## §3 The clean-up of a block -/

namespace Manager

/-- The handles whose connections are to be ended when a block over a handle has failed: first its own one, then those
of the idle handles, in the order in which they were put in. -/
def toEnd (m : Manager) (id : HandleId) : List HandleId :=
  (id :: m.idle.reverse).filter m.isOpen

/-- The first of the requests to end them that is interrupted, and the interrupt. -/
def cutShort? (m : Manager) (id : HandleId) : Option (Nat × Failure) :=
  Fault.firstInterrupt? .unbind (m.toEnd id).length m.world.faults

/-- The request to end the handle's own connection is interrupted. -/
def ownInterrupted (m : Manager) (id : HandleId) : Bool :=
  m.isOpen id && (Fault.interrupt? .unbind m.world.faults).isSome

/-- What a block leaves that has failed. -/
structure Aftermath (m : Manager) (id : HandleId) (m' : Manager) : Prop where
  ended : Ended m (Managed.closedUntil (m.cutShort? id) (m.toEnd id))
    (Managed.sentUntil (m.cutShort? id) (m.toEnd id)) m'
  idle : m'.idle = if m.ownInterrupted id then m.idle else []
  isLocked : m'.isLocked = (m.isLocked && (m.isPooled id || m.ownInterrupted id))

end Manager

namespace Managed

open Manager

variable {m m₁ : Manager} {id : HandleId} {out : List HandleId}

/-- Draining the pool is closing what was idle. -/
theorem perform_drainPool (m : Manager) :
    drainPool.perform m =
      (m.idle.reverse.forM closeConnection).perform { m with pool := m.pool.map fun pool => pool.drain.2 } := by
  rw [drainPool, Session.perform_bind_of_ok (Session.perform_get m), Manager.idle]
  rcases hpool : m.pool with _ | pool
  · dsimp only [Option.elim, Option.map]
    rw [← hpool]
    rfl
  · exact Session.perform_bind_of_ok (Session.perform_set m _) _

/-- What is left to do when the handle itself has been closed. -/
theorem unlockFor_drainPool_ends (hm : m.InOrder out) (hid : id ∈ out) (hbooks : SameBooks m m₁) :
    ∃ m', (unlockFor id >>= fun _ => drainPool).perform m₁ =
        ((match Fault.firstInterrupt? .unbind (m.idle.reverse.filter m₁.isOpen).length m₁.world.faults with
          | some (_, e) => .error e
          | none => .ok ()), m') ∧
      Ended m₁
        (closedUntil (Fault.firstInterrupt? .unbind (m.idle.reverse.filter m₁.isOpen).length m₁.world.faults)
          (m.idle.reverse.filter m₁.isOpen))
        (sentUntil (Fault.firstInterrupt? .unbind (m.idle.reverse.filter m₁.isOpen).length m₁.world.faults)
          (m.idle.reverse.filter m₁.isOpen)) m' ∧
      m'.idle = [] ∧ m'.isLocked = (m.isLocked && m.isPooled id) := by
  have hpooled : m₁.isPooled id = m.isPooled id := hbooks.retains.isPooled (hm.known id hid)
  have hunlock : (unlockFor id).perform m₁ = (.ok (), { m₁ with isLocked := m.isLocked && m.isPooled id }) := by
    rw [perform_unlockFor, ← hbooks.isLocked, ← hpooled]
    rcases hsingle : m₁.isPooled id with _ | _
    · rw [if_neg Bool.false_ne_true, perform_unlock ((hm.ofBooks hbooks).single id hid hsingle).1, Bool.and_false]
    · rw [if_pos rfl, Bool.and_true]
  let m₂ : Manager := { m₁ with isLocked := m.isLocked && m.isPooled id }
  let m₃ : Manager := { m₂ with pool := m₂.pool.map fun pool => pool.drain.2 }
  have hdrain : drainPool.perform m₂ = (m.idle.reverse.forM closeConnection).perform m₃ := by
    rw [perform_drainPool, ← hbooks.idle]
    rfl
  have hempty : m₃.idle = [] := by
    change (Option.map _ m₁.pool).elim [] Pool.items = []
    rcases m₁.pool with _ | pool <;> rfl
  have hnodup : m.idle.reverse.Nodup := (List.reverse_perm m.idle).nodup_iff.mpr (List.nodup_append.mp hm.distinct).1
  obtain ⟨m', hrun, hended⟩ := forM_closeConnection_ends hnodup m₃
  have hbooks' := forM_closeConnection_sameBooks m.idle.reverse m₃
  rw [hrun] at hbooks'
  rw [Session.perform_bind_of_ok hunlock, hdrain, hrun]
  -- the books are no part of what is ended
  have hsame : Ended m₁ [] [] m₃ := (Ended.refl m₁).ofBooks rfl fun _ => rfl
  exact ⟨m', rfl, hsame.trans hended fun _ _ => List.not_mem_nil, hbooks'.idle.trans hempty, hbooks'.isLocked⟩

/-- **The clean-up of a block** that has failed over a handle that is out. -/
theorem abandon_ends (hm : m.InOrder out) (hid : id ∈ out) :
    ∃ m', (close id >>= fun _ => drainPool).perform m =
        ((match m.cutShort? id with | some (_, e) => .error e | none => .ok ()), m') ∧ m.Aftermath id m' := by
  have hcases : close id >>= (fun _ => drainPool) =
      (closeConnection id >>= fun _ => unlockFor id >>= fun _ => drainPool) := by
    rw [close_eq, bind_assoc]
  have hnot : id ∉ m.idle.reverse := fun hmem => hm.not_mem_out_of_idle (List.mem_reverse.mp hmem) hid
  rw [hcases]
  rcases hc : m.connection? id with _ | c
  · -- there is nothing to close in the handle itself
    have hclosed : m.isOpen id = false := by rw [isOpen, hc]; rfl
    have htoEnd : m.toEnd id = m.idle.reverse.filter m.isOpen := List.filter_cons_of_neg (by simp [hclosed])
    have hown : m.ownInterrupted id = false := by rw [ownInterrupted, hclosed, Bool.false_and]
    obtain ⟨m', hrun, hended, hidle, hlock⟩ := unlockFor_drainPool_ends hm hid (refl_of SameBooks m)
    rw [Session.perform_bind_of_ok (perform_closeConnection_of_closed hc), cutShort?, htoEnd, hrun]
    refine ⟨m', rfl, ?_, ?_, ?_⟩
    · rw [cutShort?, htoEnd]
      exact hended
    · rw [hown]
      exact hidle
    · rw [hown, Bool.or_false]
      exact hlock
  · have hopen : m.isOpen id = true := by rw [isOpen, hc]; rfl
    have htoEnd : m.toEnd id = id :: m.idle.reverse.filter m.isOpen := List.filter_cons_of_pos hopen
    obtain ⟨m₁, hrun, hfaults, hended⟩ := closeConnection_ends hc
    have hbooks : SameBooks m m₁ := (closeConnection_sameBooks id).of_perform hrun
    rcases hinterrupt : Fault.interrupt? .unbind m.world.faults with _ | e
    · rw [hinterrupt] at hrun hended
      have hown : m.ownInterrupted id = false := by rw [ownInterrupted, hinterrupt, Option.isSome_none, Bool.and_false]
      have hsame : m.idle.reverse.filter m₁.isOpen = m.idle.reverse.filter m.isOpen :=
        List.filter_congr fun other hother => by
          have hne : other ∉ [id] := fun hmem => hnot (List.mem_singleton.mp hmem ▸ hother)
          rw [isOpen, isOpen, hended.others other hne]
      obtain ⟨m', hrun', hended', hidle, hlock⟩ := unlockFor_drainPool_ends hm hid hbooks
      rw [hsame, hfaults] at hrun' hended'
      have hstop : m.cutShort? id =
          (Fault.firstInterrupt? .unbind (m.idle.reverse.filter m.isOpen).length
            (Fault.strike .unbind m.world.faults).2).map fun (k, e) => (k + 1, e) := by
        rw [cutShort?, htoEnd, List.length_cons, Fault.firstInterrupt?, hinterrupt]
      rw [Session.perform_bind_of_ok hrun, hrun', hstop]
      refine ⟨m', ?_, ?_, ?_, ?_⟩
      · rcases Fault.firstInterrupt? .unbind _ _ with _ | ⟨k, e⟩ <;> rfl
      · rw [hstop, htoEnd, closedUntil_succ, sentUntil_succ]
        refine hended.trans hended' fun other hother hmem => ?_
        have hidle := List.mem_of_mem_filter (sentUntil_subset _ _ hother)
        exact hnot (List.mem_singleton.mp hmem ▸ hidle)
      · rw [hown]
        exact hidle
      · rw [hown, Bool.or_false]
        exact hlock
    · -- the clean-up ends before anything else is done
      rw [hinterrupt] at hrun hended
      have hown : m.ownInterrupted id = true := by rw [ownInterrupted, hinterrupt, hopen]; rfl
      have hstop : m.cutShort? id = some (0, e) := by
        rw [cutShort?, htoEnd, List.length_cons, Fault.firstInterrupt?, hinterrupt]
      rw [Session.perform_bind_of_error hrun, hstop]
      refine ⟨m₁, rfl, ?_, ?_, ?_⟩
      · rw [hstop, htoEnd]
        exact hended
      · rw [hown]
        exact hbooks.idle
      · rw [hown, Bool.or_true, Bool.and_true]
        exact hbooks.isLocked

/-- A block fails with what its body has raised, unless the clean-up is interrupted. -/
theorem withConnection_fails {α : Type} {x : HandleId → Managed α} {m₀ m₁ m' : Manager} {e : Failure}
    {stop : Option (Nat × Failure)} (hacquire : acquire.perform m₀ = (.ok id, m₁))
    (hfail : (x id).perform m₁ = (.error e, m))
    (hclean : (close id >>= fun _ => drainPool).perform m =
      ((match stop with | some (_, e') => .error e' | none => .ok ()), m')) :
    (withConnection x).perform m₀ = (.error ((stop.map Prod.snd).getD e), m') := by
  have hbody : ((x id).onFailure (fun _ => true) fun _ => close id >>= fun _ => drainPool).perform m₁ =
      (.error ((stop.map Prod.snd).getD e), m') := by
    rw [Session.perform_onFailure, hfail]
    dsimp only
    rw [if_pos rfl, hclean]
    rcases stop with _ | ⟨k, e'⟩ <;> rfl
  rw [withConnection, Session.perform_bind_of_ok hacquire, Session.perform_bind_of_error hbody]

end Managed

/-! ## §4 Complete clean-ups -/

namespace Manager

/-- A block over a handle has been cleaned up after: the handle has no connection, no idle handle is left in the pool,
every idle connection has been requested to end, and the mutex is free if it was held for the handle. -/
structure CleanedUp (m : Manager) (id : HandleId) (m' : Manager) : Prop where
  closed : m'.connection? id = none
  removed : ∀ other ∈ m.idle, other ∉ m'.idle
  requested : ∀ other ∈ m.idle, ∀ c, m.connection? other = some c →
    ∃ added, m'.world.events = m.world.events ++ added ∧ ⟨c.wire, .unbind⟩ ∈ added
  free : m.isPooled id = false → m'.isLocked = false

variable {m m' : Manager} {id : HandleId} {out : List HandleId}

theorem nodup_toEnd (hm : m.InOrder out) (hid : id ∈ out) : (m.toEnd id).Nodup := by
  have hnot : id ∉ m.idle.reverse := fun hmem => hm.not_mem_out_of_idle (List.mem_reverse.mp hmem) hid
  have hidle : m.idle.reverse.Nodup := (List.reverse_perm m.idle).nodup_iff.mpr (List.nodup_append.mp hm.distinct).1
  exact (List.nodup_cons.mpr ⟨hnot, hidle⟩).filter _

theorem mem_toEnd {other : HandleId} : other ∈ m.toEnd id ↔ (other = id ∨ other ∈ m.idle) ∧ m.isOpen other = true := by
  rw [toEnd, List.mem_filter, List.mem_cons, List.mem_reverse]

/-- The handle itself comes first. -/
theorem toEnd_of_open (hopen : m.isOpen id = true) : m.toEnd id = id :: m.idle.reverse.filter m.isOpen :=
  List.filter_cons_of_pos hopen

/-- Its own request is interrupted just when the clean-up is cut short there. -/
theorem ownInterrupted_iff (hm : m.InOrder out) (hid : id ∈ out) :
    m.ownInterrupted id = true ↔ ∃ k e, m.cutShort? id = some (k, e) ∧ (m.toEnd id)[k]? = some id := by
  rcases hopen : m.isOpen id with _ | _
  · -- a handle without a connection is not among those to be closed
    have hnone : ¬ ∃ k e, m.cutShort? id = some (k, e) ∧ (m.toEnd id)[k]? = some id := by
      rintro ⟨k, e, -, hk⟩
      have hmem := (mem_toEnd.mp (List.mem_of_getElem? hk)).2
      rw [hopen] at hmem
      cases hmem
    rw [ownInterrupted, hopen, Bool.false_and]
    exact ⟨nofun, fun h => absurd h hnone⟩
  · have hfirst := toEnd_of_open hopen
    have hstop : m.cutShort? id = match Fault.interrupt? .unbind m.world.faults with
        | some e => some (0, e)
        | none => (Fault.firstInterrupt? .unbind (m.idle.reverse.filter m.isOpen).length
            (Fault.strike .unbind m.world.faults).2).map fun (k, e) => (k + 1, e) := by
      rw [cutShort?, hfirst, List.length_cons, Fault.firstInterrupt?]
    rw [ownInterrupted, hopen, Bool.true_and, hstop]
    rcases Fault.interrupt? .unbind m.world.faults with _ | e
    · -- a later request is for another handle
      have hnodup := nodup_toEnd hm hid
      rw [hfirst] at hnodup ⊢
      have hnone : ¬ ∃ k e, ((Fault.firstInterrupt? .unbind (m.idle.reverse.filter m.isOpen).length
            (Fault.strike .unbind m.world.faults).2).map fun (k, e) => (k + 1, e)) = some (k, e) ∧
          (id :: m.idle.reverse.filter m.isOpen)[k]? = some id := by
        rintro ⟨k, e, hk, hget⟩
        obtain ⟨⟨j, e'⟩, -, heq⟩ := Option.map_eq_some_iff.mp hk
        cases heq
        exact (List.nodup_cons.mp hnodup).1 (List.mem_of_getElem? hget)
      simpa using hnone
    · simp [hfirst]

/-- What was requested to end is on record. -/
theorem mem_ends {ids : List HandleId} {event : Event} :
    event ∈ m.ends ids ↔ ∃ other ∈ ids, ∃ c, m.connection? other = some c ∧ event = ⟨c.wire, .unbind⟩ := by
  simp [ends, List.mem_filterMap, eq_comm]

/-- Whoever comes later in a list is not among the first. -/
theorem not_mem_take {ids : List HandleId} (hnodup : ids.Nodup) {k n : Nat} (hk : ids[k]? = some id) (hn : n ≤ k) :
    id ∉ ids.take n := by
  intro hmem
  obtain ⟨j, hj⟩ := List.mem_iff_getElem?.mp hmem
  rw [List.getElem?_take] at hj
  split at hj
  · rename_i hlt
    have hlength := (List.getElem?_eq_some_iff.mp hj).1
    have hsame := (List.getElem?_inj hlength hnodup).mp (hj.trans hk.symm)
    omega
  · cases hj

/-- **When the clean-up is complete**: no interrupt strikes it, or only the last request of all, and that one was for
an idle connection. -/
theorem Aftermath.cleanedUp_iff (h : m.Aftermath id m') (hm : m.InOrder out) (hid : id ∈ out) (hwired : m.Wired) :
    m.CleanedUp id m' ↔
      ∀ k e, m.cutShort? id = some (k, e) → k + 1 = (m.toEnd id).length ∧ (m.toEnd id)[k]? ≠ some id := by
  have hnodup := nodup_toEnd hm hid
  constructor
  · intro hclean k e hstop
    have hended := h.ended
    rw [hstop] at hended
    have hlt : k < (m.toEnd id).length := Fault.lt_of_firstInterrupt? hstop
    have hnot : (m.toEnd id)[k]? ≠ some id := by
      -- the handle would have kept its connection
      intro hk
      have hsent : id ∈ (m.toEnd id).take (k + 1) :=
        List.mem_of_getElem? ((List.getElem?_take_of_lt (Nat.lt_succ_self k)).trans hk)
      have hopen := hended.stuck id hsent (not_mem_take hnodup hk (Nat.le_refl k))
      rw [isOpen, hclean.closed] at hopen
      cases hopen
    refine ⟨?_, hnot⟩
    by_contra hmore
    -- the handle behind the one that was struck has not been looked at
    obtain ⟨other, hother⟩ : ∃ other, (m.toEnd id)[k + 1]? = some other :=
      ⟨_, List.getElem?_eq_getElem (by omega)⟩
    have hlater : other ∉ (m.toEnd id).take (k + 1) := not_mem_take hnodup hother (Nat.le_refl _)
    obtain ⟨hplace, hopen⟩ := mem_toEnd.mp (List.mem_of_getElem? hother)
    have hidle : other ∈ m.idle := by
      refine hplace.resolve_left ?_
      rintro rfl
      rw [toEnd_of_open hopen, List.take_succ_cons] at hlater
      exact hlater List.mem_cons_self
    obtain ⟨c, hc⟩ := Option.isSome_iff_exists.mp hopen
    obtain ⟨added, hevents, hmem⟩ := hclean.requested other hidle c hc
    rw [hended.events, List.append_cancel_left_eq] at hevents
    rw [← hevents, mem_ends] at hmem
    obtain ⟨another, hsent, d, hd, heq⟩ := hmem
    have hwires : c.wire = d.wire := congrArg Event.wire heq
    exact hlater (hwired.apart other c another d hc hd hwires ▸ hsent)
  · intro hstop
    have hown : m.ownInterrupted id = false := by
      rw [Bool.eq_false_iff, ne_eq, ownInterrupted_iff hm hid]
      rintro ⟨k, e, hk, hget⟩
      exact (hstop k e hk).2 hget
    have hidle := h.idle
    have hlock := h.isLocked
    rw [hown] at hidle hlock
    -- all requests have been sent
    have hsent : Managed.sentUntil (m.cutShort? id) (m.toEnd id) = m.toEnd id := by
      rcases hcut : m.cutShort? id with _ | ⟨k, e⟩
      · rfl
      · exact List.take_of_length_le (Nat.le_of_eq (hstop k e hcut).1.symm)
    have hended := h.ended
    rw [hsent] at hended
    refine ⟨?_, fun other _ => ?_, fun other hother c hc => ⟨m.ends (m.toEnd id), hended.events, ?_⟩, fun hsingle => ?_⟩
    · rcases hopen : m.isOpen id with _ | _
      · have hnot : id ∉ m.toEnd id := fun hmem => by simpa [hopen] using (mem_toEnd.mp hmem).2
        rw [hended.others id hnot]
        exact Option.isNone_iff_eq_none.mp (Option.isSome_eq_false_iff.mp hopen)
      · refine hended.givenUp id ?_
        rw [toEnd_of_open hopen] at hstop ⊢
        rcases hcut : m.cutShort? id with _ | ⟨_ | k, e⟩
        · exact List.mem_cons_self
        · exact absurd rfl (hstop 0 e hcut).2
        · exact List.mem_cons_self
    · rw [hidle]
      exact List.not_mem_nil
    · refine mem_ends.mpr ⟨other, mem_toEnd.mpr ⟨.inr hother, ?_⟩, c, hc, rfl⟩
      rw [isOpen, hc]
      rfl
    · rw [hlock, hsingle, Bool.or_false, Bool.and_false]

end Manager

open Manager Managed

/-- **The clean-up of a failed block.** After any proper run from a new manager that leaves it to the manager to end
connections, let a block over a handle fail with whatever its body has raised. The requests that end connections are
sent for the handle itself and then for the idle ones, up to the first one that is interrupted, whatever else becomes
of them; each handle before that has given its connection up, and no other one has lost its own. The block fails with
the interrupt if there is one. Just if there is none, or it has struck nothing but the last request of all, for an idle
connection, the clean-up is complete. -/
theorem cleanup_of_failed_block {registry : Registry} {snapshot : Snapshot} {w : World} {m₀ : Manager}
    (hcreate : ((Manager.create registry snapshot).perform w).1 = .ok m₀) {moves : List Move}
    (hmoves : (Desk.mk m₀ []).All Desk.Proper moves) (hengage : ∀ move ∈ moves, move.Engages)
    {d : Desk} (hd : (Desk.mk m₀ []).run moves = d) {id : HandleId} (hid : id ∈ d.out)
    {α : Type} {x : HandleId → Managed α} {m₁ m₂ : Manager} (hacquire : acquire.perform m₁ = (.ok id, m₂)) {e : Failure}
    (hfail : (x id).perform m₂ = (.error e, d.manager)) :
    ∃ m', (withConnection x).perform m₁ = (.error (((d.manager.cutShort? id).map Prod.snd).getD e), m') ∧
      d.manager.Aftermath id m' ∧
      (d.manager.CleanedUp id m' ↔ ∀ k e', d.manager.cutShort? id = some (k, e') →
        k + 1 = (d.manager.toEnd id).length ∧ (d.manager.toEnd id)[k]? ≠ some id) := by
  subst hd
  have hm := Desk.run_inOrder hcreate hmoves
  obtain ⟨m', hclean, haftermath⟩ := abandon_ends hm hid
  exact ⟨m', withConnection_fails hacquire hfail hclean, haftermath,
    haftermath.cleanedUp_iff hm hid (Desk.run_wired hcreate hengage)⟩

/-! ### Two blocks -/

/-- A block that is interrupted, over a handle of a pool. -/
def Managed.interrupted : HandleId → Managed Unit :=
  fun _ => throw (.interrupt "")

/-- Two handles are idle when the wires break; one of them is lent out again. -/
def Move.breaking : List Move :=
  [.acquire, .acquire, .acquire, .release 0, .release 1,
    .outside {} [⟨some .unbind, 0, some (.client ⟨"LDAPSocketSendError", "broken pipe"⟩)⟩,
      ⟨some .unbind, 0, some (.interrupt "stop")⟩],
    .acquire]

/-- An error for the handle and an interrupt for the last idle one do not keep the clean-up from being complete. -/
theorem broken_wires_cleaned_up :
    ∃ m₀, ((Manager.create {} ⟨0, .withPool⟩).perform {}).1 = .ok m₀ ∧
      ∃ m', (withConnection Managed.interrupted).perform ((Desk.mk m₀ []).run (Move.breaking.take 6)).manager =
          (.error (.interrupt "stop"), m') ∧
        ((Desk.mk m₀ []).run Move.breaking).manager.CleanedUp 1 m' := by
  have hrun : (((Manager.create {} ⟨0, .withPool⟩).perform {}).1.toOption.any fun m₀ =>
      let d := (Desk.mk m₀ []).run Move.breaking
      decide ((Desk.mk m₀ []).All Desk.Proper Move.breaking) && decide (d.out = [1, 2]) &&
        decide ((acquire.perform ((Desk.mk m₀ []).run (Move.breaking.take 6)).manager).1 = .ok 1) &&
        decide (d.manager.cutShort? 1 = some (1, .interrupt "stop")) &&
        decide (d.manager.toEnd 1 = [1, 0])) = true := by decide +kernel
  obtain ⟨m₀, hcreate, hrun⟩ := exists_ok_of_any hrun
  simp only [Bool.and_eq_true, decide_eq_true_eq] at hrun
  obtain ⟨⟨⟨⟨hmoves, hout⟩, hone⟩, hstop⟩, htoEnd⟩ := hrun
  -- the block gets the second wire, and the requests to end it are cut short by the interrupt
  have hengage : ∀ move ∈ Move.breaking, move.Engages := by simp [Move.breaking, Move.Engages]
  have hacquire : acquire.perform ((Desk.mk m₀ []).run (Move.breaking.take 6)).manager =
      (.ok 1, ((Desk.mk m₀ []).run Move.breaking).manager) := by
    have hlast : (Desk.mk m₀ []).run Move.breaking = ((Desk.mk m₀ []).run (Move.breaking.take 6)).step .acquire := rfl
    rw [hlast, Desk.step_acquire, ← hone]
  obtain ⟨m', hblock, -, hcomplete⟩ := cleanup_of_failed_block hcreate hmoves hengage rfl
    (hout ▸ List.mem_cons_self) (x := Managed.interrupted) hacquire rfl
  -- the interrupt comes after all that was to be ended
  rw [hstop, htoEnd] at hcomplete
  rw [hstop] at hblock
  refine ⟨m₀, hcreate, m', hblock, hcomplete.mpr ?_⟩
  rintro k e ⟨⟩
  exact ⟨rfl, by decide⟩

/-- The body of a block over the shared handle raises an error, and the request that ends the connection is interrupted:
the handle keeps its connection and the mutex stays held, so that whoever wants a handle next waits for ever. -/
theorem mutex_kept_after_interrupt :
    ∃ m₀, ((Manager.create {} ⟨0, { connectionUrl := some "ldap://directory" }⟩).perform
        { faults := [⟨some .unbind, 0, some (.interrupt "stop")⟩] }).1 = .ok m₀ ∧
      ∃ m', (withConnection (α := Unit) fun _ => throw (.defect (.other "RuntimeError") "")).perform m₀ =
          (.error (.interrupt "stop"), m') ∧
        m'.waits .acquire = true ∧ ¬ (acquire.perform m₀).2.CleanedUp 0 m' := by
  have hrun : (((Manager.create {} ⟨0, { connectionUrl := some "ldap://directory" }⟩).perform
      { faults := [⟨some .unbind, 0, some (.interrupt "stop")⟩] }).1.toOption.any fun m₀ =>
        let run := (withConnection (α := Unit) fun _ => throw (.defect (.other "RuntimeError") "")).perform m₀
        decide (run.1 = .error (.interrupt "stop")) && run.2.waits .acquire && run.2.isOpen 0) = true := by
    decide +kernel
  obtain ⟨m₀, hcreate, hrun⟩ := exists_ok_of_any hrun
  simp only [Bool.and_eq_true, decide_eq_true_eq] at hrun
  obtain ⟨⟨hresult, hwaits⟩, hopen⟩ := hrun
  refine ⟨m₀, hcreate, _, Prod.ext hresult rfl, hwaits, fun hclean => ?_⟩
  rw [isOpen, hclean.closed] at hopen
  cases hopen

end DirectoryLogin

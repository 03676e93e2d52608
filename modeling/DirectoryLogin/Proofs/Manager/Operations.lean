import DirectoryLogin.Proofs.Manager.Lending
import DirectoryLogin.Proofs.Rejecting
/-!
# What Every Operation Does to the Books

An operation may fail at any point, and even be interrupted, without putting the books out of order. An interrupt may
leave the mutex held for ever, or a connection open that nobody will close. Short of that, the mutex is what it has to
be, and every open handle is still held by somebody.

- `Managed.GivesBack`: how a handle is given back.
- `Managed.Lends`: how one is lent out.
- `Managed.Conserves`: what every other operation does.
-/

namespace DirectoryLogin

theorem Failure.ne_unlockedTwice_of_isRejection {e : Failure} (he : e.isRejection = true) : e ≠ unlockedTwice := by
  rintro rfl
  cases he

namespace Managed

open Manager

variable {α : Type} {m m' : Manager} {out : List HandleId} {id : HandleId}

/-! ## §1 Opening and closing -/

theorem connection?_setConnection (m : Manager) (id other : HandleId) (c? : Option Connection) :
    (m.setConnection id c?).connection? other =
      if other = id then (m.handle? id).bind fun _ => c? else m.connection? other := by
  rw [connection?, handle?_setConnection]
  by_cases heq : other = id
  · rw [if_pos heq.symm, if_pos heq, heq]
    rcases m.handle? id with _ | h <;> rfl
  · rw [if_neg (Ne.symm heq), if_neg heq]
    rfl

/-- **How closing an open handle ends**: the end of its connection has been requested, and the handle has forgotten it
unless it was interrupted. -/
theorem closeConnection_run {c : Connection} (hc : m.connection? id = some c) :
    (∃ w, (closeConnection id).perform m = (.ok (), { m.setConnection id none with world := w }) ∧
        w.wires.length = m.world.wires.length ∧ w.events = m.world.events ++ [⟨c.wire, .unbind⟩]) ∨
      ∃ e m', (closeConnection id).perform m = (.error e, m') ∧ e.isOrdinary = false := by
  have hforget (c' : Connection) (w : World) :
      Manager.setConnection { m.setConnection id (some c') with world := w } id none =
        { m.setConnection id none with world := w } := by
    simp only [Manager.setConnection, updateHandle, List.modify_modify_eq]
    rfl
  rw [closeConnection, Session.perform_bind_of_ok (Session.perform_get m)]
  simp only [hc, Option.isNone_some, Bool.false_eq_true, if_false, Session.perform_bind, Session.perform_rescue,
    perform_onConnection, Exchange.close_eq, World.unbindWire_eq]
  -- whatever becomes of the request, it is on record
  rcases Fault.verdict (Fault.strike .unbind m.world.faults).1 with e | passed
  · simp only [Except.map, Except.mapError]
    generalize e.interpreted c.environment.throwsReferrals = e
    rcases he : e.isOrdinary with _ | _
    · exact .inr ⟨_, _, rfl, he⟩
    · left
      simp only [if_true]
      refine ⟨_, congrArg (Prod.mk _) (hforget _ _), ?_, ?_⟩
      · exact World.length_updateWire _ _ _
      · exact congrArg (· ++ _) (World.updateWire_events _ _ _)
  · left
    refine ⟨_, congrArg (Prod.mk _) (hforget _ _), ?_, ?_⟩
    · exact World.length_updateWire _ _ _
    · exact congrArg (· ++ _) (World.updateWire_events _ _ _)

theorem perform_closeConnection_of_closed (hclosed : m.connection? id = none) :
    (closeConnection id).perform m = (.ok (), m) := by
  rw [closeConnection, Session.perform_bind_of_ok (Session.perform_get m), hclosed]
  rfl

/-- **Closing a handle** fails only by an interrupt. Otherwise the handle is closed, and no other one is. -/
theorem closeConnection_closes (id : HandleId) (m : Manager)
    (h : FailsOrdinarily ((closeConnection id).perform m).1) :
    ((closeConnection id).perform m).1 = .ok () ∧
      ∀ other, ((closeConnection id).perform m).2.isOpen other = true ↔ m.isOpen other = true ∧ other ∉ [id] := by
  rcases hc : m.connection? id with _ | c
  · -- there is nothing to close
    rw [perform_closeConnection_of_closed hc]
    refine ⟨rfl, fun other => ⟨fun hopen => ⟨hopen, ?_⟩, fun hopen => hopen.1⟩⟩
    intro hother
    have hopen : m.isOpen other = true := hopen
    rw [List.mem_singleton.mp hother, isOpen, hc] at hopen
    cases hopen
  · rcases closeConnection_run hc with ⟨w, hrun, -, -⟩ | ⟨e, m', hrun, he⟩
    · rw [hrun]
      refine ⟨rfl, fun other => ?_⟩
      change ((m.setConnection id none).connection? other).isSome = true ↔ _
      rw [connection?_setConnection, List.mem_singleton]
      by_cases hother : other = id
      · simp [hother]
      · rw [if_neg hother]
        exact ⟨fun hopen => ⟨hopen, hother⟩, fun hopen => hopen.1⟩
    · rw [hrun] at h
      have hordinary := h e rfl
      rw [he] at hordinary
      cases hordinary

theorem forM_closeConnection_closes (ids : List HandleId) (m : Manager)
    (h : FailsOrdinarily ((ids.forM closeConnection).perform m).1) :
    ((ids.forM closeConnection).perform m).1 = .ok ⟨⟩ ∧
      ∀ other, ((ids.forM closeConnection).perform m).2.isOpen other = true ↔
        m.isOpen other = true ∧ other ∉ ids := by
  -- one handle after the other; the first interrupt would end it
  induction ids generalizing m with
  | nil => exact ⟨rfl, fun other => ⟨fun hopen => ⟨hopen, List.not_mem_nil⟩, fun hopen => hopen.1⟩⟩
  | cons id rest ih =>
    have hcons : (id :: rest).forM closeConnection = (closeConnection id >>= fun _ => rest.forM closeConnection) := rfl
    rw [hcons] at h ⊢
    rcases hrun : (closeConnection id).perform m with ⟨e | _, m₁⟩
    · rw [Session.perform_bind_of_error hrun] at h
      have hfirst := closeConnection_closes id m (by rw [hrun]; exact fun e' he => h e' (he ▸ rfl))
      rw [hrun] at hfirst
      cases hfirst.1
    · rw [Session.perform_bind_of_ok hrun] at h ⊢
      have hfirst := closeConnection_closes id m (by rw [hrun]; exact .ok _)
      rw [hrun] at hfirst
      obtain ⟨hvalue, hrest⟩ := ih m₁ h
      refine ⟨hvalue, fun other => ?_⟩
      rw [hrest, hfirst.2, List.mem_singleton, List.mem_cons, not_or, and_assoc]

/-- **Opening a handle** opens no other one, and none at all if it fails. -/
theorem openHandle_opens (id : HandleId) (m : Manager) :
    (∀ other, other ≠ id → ((openHandle id).perform m).2.isOpen other = m.isOpen other) ∧
      ∀ e, ((openHandle id).perform m).1 = .error e →
        ((openHandle id).perform m).2.isOpen id = m.isOpen id ∧ (e.isOrdinary = true → e ≠ .unlockedTwice) := by
  rcases hid : m.handle? id with _ | h
  · rw [perform_openHandle_of_none hid]
    refine ⟨fun _ _ => rfl, fun e he => ⟨rfl, fun _ => ?_⟩⟩
    cases he
    exact nofun
  · rw [perform_openHandle hid]
    rcases hrun : (Connection.establish m.connector m.tls h.settings).perform m.world with ⟨e | c, w⟩
    · -- a connection is stored after the last attempt only
      refine ⟨fun _ _ => rfl, fun e' he => ⟨rfl, fun hordinary => ?_⟩⟩
      cases he
      obtain ⟨_, _, rfl⟩ := Connection.establish_unreachable hrun hordinary
      exact nofun
    · refine ⟨fun other hother => ?_, fun e he => nomatch he⟩
      change ((m.setConnection id (some c)).connection? other).isSome = _
      rw [connection?_setConnection, if_neg hother]
      rfl

/-- How making a handle ends: there is one more handle, without a connection, or the settings were rejected. -/
theorem newHandle_makes (snapshot : Snapshot) (pooled : Bool) (m : Manager) :
    (∃ h, (newHandle snapshot pooled).perform m = (.ok m.handles.length, { m with handles := m.handles ++ [h] }) ∧
        h.snapshot = snapshot ∧ h.pooled = pooled ∧ h.connection = none) ∨
      ∃ e, e.isRejection = true ∧ (newHandle snapshot pooled).perform m = (.error e, m) := by
  unfold newHandle
  rcases hcreate : Handle.create snapshot pooled with e | h
  · exact .inr ⟨e, Handle.create_rejected snapshot pooled e hcreate, rfl⟩
  · obtain ⟨hsnapshot, hpooled, -, hclosed⟩ := Handle.of_create_ok hcreate
    exact .inl ⟨h, rfl, hsnapshot, hpooled, hclosed⟩

theorem connection?_newHandle (m : Manager) {h : Handle} (hclosed : h.connection = none) (other : HandleId) :
    Manager.connection? { m with handles := m.handles ++ [h] } other = m.connection? other := by
  -- after the old handles comes the new one, which has no connection
  simp only [connection?, handle?, List.getElem?_append]
  split
  · rfl
  · rename_i hlength
    rw [List.getElem?_eq_none (Nat.le_of_not_lt hlength)]
    rcases hlast : [h][other - m.handles.length]? with _ | h'
    · rfl
    · have hmem := List.mem_of_getElem? hlast
      rw [List.mem_singleton.mp hmem, Option.bind_some, hclosed]
      rfl

theorem isOpen_newHandle (m : Manager) {h : Handle} (hclosed : h.connection = none) (other : HandleId) :
    Manager.isOpen { m with handles := m.handles ++ [h] } other = m.isOpen other :=
  congrArg Option.isSome (connection?_newHandle m hclosed other)

/-! ## §2 Giving back -/

/-- How a handle is given back: only an interrupt is a failure. Otherwise the mutex is free afterwards if the handle was
the shared one, and as before if it belongs to a pool. -/
structure GivesBack (m : Manager) (out : List HandleId) (id : HandleId) (run : Except Failure Unit × Manager) :
    Prop where
  inOrder : run.2.InOrder (out.erase id)
  ordinary : FailsOrdinarily run.1 →
    run.1 = .ok () ∧ run.2.isLocked = (m.isLocked && m.isPooled id) ∧ (m.Held out [] → run.2.Held (out.erase id) [])

/-- The mutex is given back if it was held for the handle. -/
def unlockFor (id : HandleId) : Managed Unit := do
  if !(← get).isPooled id then unlock

theorem perform_unlockFor (id : HandleId) (m : Manager) :
    (unlockFor id).perform m = if m.isPooled id then (.ok (), m) else unlock.perform m := by
  rw [unlockFor, Session.perform_bind_of_ok (Session.perform_get m)]
  rcases m.isPooled id <;> rfl

/-- Whoever has the shared handle gives the mutex back, and leaves the handle to the next one. -/
theorem unlock_givesBack (hm : m.InOrder out) (hid : id ∈ out) (hsingle : m.isPooled id = false) :
    GivesBack m out id (unlock.perform m) := by
  obtain ⟨hlocked, hshared⟩ := hm.single id hid hsingle
  rw [perform_unlock hlocked]
  refine ⟨(hm.sublist List.erase_sublist).ofUnlock (hm.pooled_of_ne hid hsingle), fun _ => ⟨rfl, ?_, ?_⟩⟩
  · rw [hsingle, Bool.and_false]
  · intro hheld other hother
    rcases hheld other hother with hmem | hmem
    · -- the handle stays shared, and that is how it is held from now on
      by_cases hne : other = id
      · exact .inr (.inr (.inl (hne ▸ hshared)))
      · exact .inl ((List.mem_erase_of_ne hne).mpr hmem)
    · exact .inr hmem

/-- **A handle without a connection** owes nothing but the mutex. -/
theorem unlockFor_givesBack (hm : m.InOrder out) (hid : id ∈ out) (hclosed : m.isOpen id = false) :
    GivesBack m out id ((unlockFor id).perform m) := by
  rw [perform_unlockFor]
  split
  · rename_i hpooled
    refine ⟨hm.sublist List.erase_sublist, fun _ => ⟨rfl, by rw [hpooled, Bool.and_true], fun hheld other hother => ?_⟩⟩
    have hne : other ≠ id := by
      rintro rfl
      rw [hclosed] at hother
      cases hother
    exact (hheld other hother).imp_left (List.mem_erase_of_ne hne).mpr
  · rename_i hsingle
    exact unlock_givesBack hm hid (Bool.eq_false_iff.mpr hsingle)

theorem close_eq (id : HandleId) : close id = (closeConnection id >>= fun _ => unlockFor id) := rfl

/-- **Giving a handle back after a failure** closes it. -/
theorem close_givesBack (hm : m.InOrder out) (hid : id ∈ out) : GivesBack m out id ((close id).perform m) := by
  have hbooks := closeConnection_sameBooks id m
  have hcloses := closeConnection_closes id m
  rw [close_eq]
  rcases hrun : (closeConnection id).perform m with ⟨e | _, m₁⟩
  · -- only an interrupt keeps a connection from being closed
    rw [Session.perform_bind_of_error hrun]
    rw [hrun] at hbooks hcloses
    refine ⟨(hm.ofBooks hbooks).sublist List.erase_sublist, fun h => ?_⟩
    have hvalue := (hcloses fun e' he => h e' (he ▸ rfl)).1
    cases hvalue
  · rw [Session.perform_bind_of_ok hrun]
    rw [hrun] at hbooks hcloses
    have hopen := (hcloses (.ok _)).2
    have hclosed : m₁.isOpen id = false :=
      Bool.eq_false_iff.mpr fun h => ((hopen id).mp h).2 (List.mem_singleton_self id)
    have hunlock := unlockFor_givesBack (hm.ofBooks hbooks) hid hclosed
    refine ⟨hunlock.inOrder, fun h => ?_⟩
    obtain ⟨hvalue, hlock, hheld⟩ := hunlock.ordinary h
    rw [hbooks.isLocked, hbooks.retains.isPooled (hm.known id hid)] at hlock
    exact ⟨hvalue, hlock, fun hbefore =>
      hheld (hbefore.closed hbooks.shared hbooks.idle hopen fun _ hmem => nomatch hmem)⟩

/-- Closing a handle of a pool is all there is to giving it back; for the shared one, there is the mutex. -/
theorem perform_close (hid : (m.handle? id).isSome) :
    (close id).perform m =
      if m.isPooled id then (closeConnection id).perform m else
        (closeConnection id >>= fun _ => unlock).perform m := by
  have hbooks := closeConnection_sameBooks id m
  rw [close_eq, Session.perform_bind, Session.perform_bind]
  rcases hrun : (closeConnection id).perform m with ⟨e | _, m₁⟩
  · rcases m.isPooled id <;> rfl
  · rw [hrun] at hbooks
    have hpooled : m₁.isPooled id = m.isPooled id := hbooks.retains.isPooled hid
    dsimp only
    rw [perform_unlockFor, hpooled]

/-- **Giving a handle back after a success**: it goes into the pool, or is left open for whoever is next. A handle for
which there is no place any more is closed. -/
theorem release_givesBack (hm : m.InOrder out) (hid : id ∈ out) : GivesBack m out id ((release id).perform m) := by
  have hclose := close_givesBack hm hid
  rw [perform_close (hm.known id hid)] at hclose
  rw [release, Session.perform_bind_of_ok (Session.perform_get m)]
  rcases hpooled : m.isPooled id with _ | _
  · -- a shared handle of an older snapshot is closed like one that has failed
    rcases m.isCurrent id with _ | _
    · rwa [hpooled] at hclose
    · exact unlock_givesBack hm hid hpooled
  simp only [if_true]
  rcases hpush : (if m.isCurrent id then m.pool.bind (·.push? id) else none) with _ | pool'
  · rwa [hpooled] at hclose
  split at hpush
  · rename_i hcurrent
    obtain ⟨pool, hpool, hpush⟩ := Option.bind_eq_some_iff.mp hpush
    -- the pool has room, so that the handle is idle from now on
    have hserving := serving_iff hcurrent hpooled
    change GivesBack m out id (.ok (), { m with pool := some pool' })
    refine ⟨hm.put hpool hid hserving hpush, fun _ => ⟨rfl, ?_, fun hheld other hother => ?_⟩⟩
    · rw [hpooled, Bool.and_true]
    have hidle : Manager.idle { m with pool := some pool' } = id :: m.idle := by
      rw [Manager.idle, Manager.idle, hpool, Option.elim_some, Option.elim_some, Pool.items_of_push? hpush]
    rw [hidle]
    rcases hheld other hother with hmem | hmem | hmem
    · by_cases hne : other = id
      · exact .inr (.inl (hne ▸ List.mem_cons_self))
      · exact .inl ((List.mem_erase_of_ne hne).mpr hmem)
    · exact .inr (.inl (List.mem_cons_of_mem id hmem))
    · exact .inr (.inr hmem)
  · cases hpush

/-! ## §3 Lending -/

/-- How a handle is lent out: with it the mutex, if the handle is the shared one. After a failure that is not an
interrupt the mutex is as before. -/
inductive Lends (m : Manager) (out : List HandleId) : Except Failure HandleId × Manager → Prop
  | lent (m' : Manager) (id : HandleId) (hm' : m'.InOrder (id :: out))
    (hlock : (m'.isLocked && m'.isPooled id) = m.isLocked) (hheld : m.Held out [] → m'.Held (id :: out) []) :
    Lends m out (.ok id, m')
  | failed (m' : Manager) (e : Failure) (hm' : m'.InOrder out)
    (hordinary : e.isOrdinary = true →
      e ≠ .unlockedTwice ∧ m'.isLocked = m.isLocked ∧ (m.Held out [] → m'.Held out [])) : Lends m out (.error e, m')

theorem Lends.inOrder {run : Except Failure HandleId × Manager} (h : Lends m out run) :
    run.2.InOrder (run.1.toOption.toList ++ out) := by
  cases h with
  | lent _ _ hm' => exact hm'
  | failed _ _ hm' => exact hm'

theorem isPooled_of_handle {h : Handle} (hid : m.handle? id = some h) : m.isPooled id = h.pooled := by
  rw [isPooled, hid, Option.any_some]

/-- A handle that belongs to no pool is neither idle nor among handles that belong to one. -/
theorem not_mem_of_single (hm : m.InOrder out) (hpooled : ∀ id ∈ out, m.isPooled id = true)
    (hsingle : m.isPooled id = false) : id ∉ m.idle ++ out := by
  intro hmem
  have hmine : m.isPooled id = true := by
    rcases List.mem_append.mp hmem with hidle | hout
    · exact (hm.idle id hidle).isPooled
    · exact hpooled id hout
  rw [hsingle] at hmine
  cases hmine

/-- Whoever holds the mutex while none of the handles that are out is shared may have the handle that is shared from
now on. -/
theorem lend_shared (hm : m.InOrder out) (hpooled : ∀ id ∈ out, m.isPooled id = true) (hlocked : m.isLocked = true)
    {h : Handle} (hid : m.handle? id = some h) (hsingle : h.pooled = false) :
    InOrder { m with shared := some id, ready := none } (id :: out) := by
  have hsingle' : m.isPooled id = false := (isPooled_of_handle hid).trans hsingle
  have hshared : InOrder { m with shared := some id, ready := none } out := by
    refine hm.ofKept hpooled fun other hkept => ?_
    rcases hkept with heq | heq
    · cases heq
      exact ⟨h, hid, hsingle⟩
    · cases heq
  have hfresh := not_mem_of_single hm hpooled hsingle'
  refine hshared.lend hfresh ?_ fun _ => ⟨hlocked, rfl⟩
  exact Option.isSome_iff_exists.mpr ⟨h, hid⟩

/-- How the shared handle is chosen, by whoever holds the mutex. -/
inductive Shares (m : Manager) (out : List HandleId) : Except Failure HandleId × Manager → Prop
  | shared (m' : Manager) (id : HandleId) (hm' : m'.InOrder (id :: out)) (hsingle : m'.isPooled id = false)
    (hheld : m.Held out [] → m'.Held (id :: out) []) : Shares m out (.ok id, m')
  | failed (m' : Manager) (e : Failure) (hm' : m'.InOrder out) (hpooled : ∀ id ∈ out, m'.isPooled id = true)
    (hlocked : m'.isLocked = true)
    (hordinary : e.isOrdinary = true → e ≠ .unlockedTwice ∧ (m.Held out [] → m'.Held out [])) :
    Shares m out (.error e, m')

/-- Another handle comes to be shared, when the one that was is held by nobody any more. -/
theorem shareNew_shares (hm : m.InOrder out) (hpooled : ∀ id ∈ out, m.isPooled id = true) (hlocked : m.isLocked = true)
    (hclosed : ∀ id, m.shared = some id → m.isOpen id = false) (snapshot : Snapshot) :
    Shares m out ((shareNew snapshot).perform m) := by
  -- whatever handle it will be, the one that was shared is closed and need not be held
  have hlends {m' : Manager} {id : HandleId} (hidle : m'.idle = m.idle)
      (hsame : ∀ other, m'.isOpen other = m.isOpen other) (hheld : m.Held out []) : m'.Held (id :: out) [] := by
    intro other hother
    rw [hsame] at hother
    rw [hidle]
    rcases hheld other hother with hmem | hmem | hmem | hmem
    · exact .inl (List.mem_cons_of_mem id hmem)
    · exact .inr (.inl hmem)
    · rw [hclosed other hmem] at hother
      cases hother
    · cases hmem
  rw [shareNew, Session.perform_bind_of_ok (Session.perform_get m),
    Session.perform_bind_of_ok (Session.perform_set m _)]
  -- a handle that was made ready for the snapshot saves making one
  rcases hready : m.readyFor? snapshot with _ | id
  · dsimp only
    rcases newHandle_makes snapshot false { m with ready := none } with
      ⟨h, hrun, -, hsingle, hnone⟩ | ⟨e, he, hrun⟩
    · rw [Session.perform_bind_of_ok hrun]
      have hnew : InOrder { m with handles := m.handles ++ [h] } out := hm.ofNewHandle hnone
      have hid : Manager.handle? { m with handles := m.handles ++ [h] } m.handles.length = some h :=
        List.getElem?_concat_length
      have hretains := (Stays.ofNewHandle m hnone).toKeeps.retains
      have hpooled' : ∀ id ∈ out, Manager.isPooled { m with handles := m.handles ++ [h] } id = true :=
        fun id hout => (hretains.isPooled (hm.known id hout)).trans (hpooled id hout)
      have hlent := lend_shared hnew hpooled' hlocked hid hsingle
      exact .shared _ _ hlent ((isPooled_of_handle hid).trans hsingle)
        (hlends rfl fun other => isOpen_newHandle m hnone other)
    · rw [Session.perform_bind_of_error hrun]
      have hforgotten : InOrder { m with ready := none } out := by
        refine hm.ofKept hpooled fun other hkept => ?_
        rcases hkept with heq | heq
        · exact hm.kept other (.inl heq)
        · cases heq
      exact .failed _ _ hforgotten hpooled hlocked fun _ =>
        ⟨Failure.ne_unlockedTwice_of_isRejection he, fun hheld => hheld⟩
  · obtain ⟨hkept, -⟩ := Option.filter_eq_some_iff.mp hready
    obtain ⟨h, hid, hsingle⟩ := hm.kept id (.inr hkept)
    have hlent := lend_shared hm hpooled hlocked hid hsingle
    exact .shared _ _ hlent ((isPooled_of_handle hid).trans hsingle) (hlends rfl fun _ => rfl)

/-- The shared handle is the one that is shared already, if it is for the snapshot; otherwise that one is closed. -/
theorem sharedHandle_shares (hm : m.InOrder out) (hpooled : ∀ id ∈ out, m.isPooled id = true)
    (hlocked : m.isLocked = true) (snapshot : Snapshot) : Shares m out ((sharedHandle snapshot).perform m) := by
  rw [perform_sharedHandle]
  rcases hshared : m.sharedFor? snapshot with _ | id
  · dsimp only
    have hbooks := forM_closeConnection_sameBooks m.shared.toList m
    have hcloses := forM_closeConnection_closes m.shared.toList m
    rcases hrun : (m.shared.toList.forM closeConnection).perform m with ⟨e | _, m₁⟩
    all_goals
      rw [hrun] at hbooks hcloses
      have hpooled₁ : ∀ id ∈ out, m₁.isPooled id = true :=
        fun id hout => (hbooks.retains.isPooled (hm.known id hout)).trans (hpooled id hout)
    · rw [Session.perform_bind_of_error hrun]
      refine .failed m₁ e (hm.ofBooks hbooks) hpooled₁ (hbooks.isLocked.trans hlocked) fun hordinary => ?_
      have hvalue := (hcloses (.error hordinary)).1
      cases hvalue
    · rw [Session.perform_bind_of_ok hrun]
      have hopen := (hcloses (.ok _)).2
      have hclosed : ∀ id, m₁.shared = some id → m₁.isOpen id = false := by
        intro id hid
        rw [hbooks.shared] at hid
        exact Bool.eq_false_iff.mpr fun h => ((hopen id).mp h).2 (by rw [hid]; exact List.mem_singleton_self id)
      have hheld₁ (h : m.Held out []) : m₁.Held out [] :=
        h.closed hbooks.shared hbooks.idle hopen fun _ hmem => nomatch hmem
      -- now the old handle may be forgotten
      have hnew := shareNew_shares (hm.ofBooks hbooks) hpooled₁ (hbooks.isLocked.trans hlocked) hclosed snapshot
      generalize (shareNew snapshot).perform m₁ = run at hnew
      cases hnew with
      | shared m₂ id hm₂ hsingle hheld => exact .shared m₂ id hm₂ hsingle (hheld ∘ hheld₁)
      | failed m₂ e hm₂ hpooled₂ hlocked₂ hordinary =>
        exact .failed m₂ e hm₂ hpooled₂ hlocked₂ fun he => (hordinary he).imp_right (· ∘ hheld₁)
  · obtain ⟨hkept, -⟩ := Option.filter_eq_some_iff.mp hshared
    obtain ⟨h, hid, hsingle⟩ := hm.kept id (.inl hkept)
    have hsingle' : m.isPooled id = false := (isPooled_of_handle hid).trans hsingle
    have hknown : (m.handle? id).isSome := Option.isSome_iff_exists.mpr ⟨h, hid⟩
    have hlent := hm.lend (not_mem_of_single hm hpooled hsingle') hknown fun _ => ⟨hlocked, hkept⟩
    exact .shared m id hlent hsingle' fun hheld => hheld.mono (fun _ hmem => List.mem_cons_of_mem id hmem) fun _ h => h

/-- **The shared handle** is lent out with the mutex. Whoever gets no handle does not keep the mutex. -/
theorem lockShared_lends (hm : m.InOrder out) (hfree : m.isLocked = false) (snapshot : Snapshot) :
    Lends m out
      ((lock >>= fun _ => (sharedHandle snapshot).onFailure Failure.isOrdinary fun _ => unlock).perform m) := by
  rw [Session.perform_bind_of_ok (perform_lock hfree), Session.perform_onFailure]
  -- all that can fail now fails under the mutex
  have hshares := sharedHandle_shares hm.ofLock (hm.pooled_of_free hfree) rfl snapshot
  generalize (sharedHandle snapshot).perform { m with isLocked := true } = run at hshares ⊢
  cases hshares with
  | shared m' id hm' hsingle hheld =>
    exact .lent m' id hm' (by rw [hsingle, Bool.and_false, hfree]) hheld
  | failed m' e hm' hpooled hlocked hordinary =>
    by_cases he : e.isOrdinary = true
    · obtain ⟨hother, hheld⟩ := hordinary he
      simp only [he, if_true, perform_unlock hlocked]
      exact .failed _ e (hm'.ofUnlock hpooled) fun _ => ⟨hother, hfree.symm, hheld⟩
    · simp only [he]
      exact .failed m' e hm' fun h => absurd h he

/-- **A handle to be opened** comes from the pool, is new, or is the shared one. -/
theorem takeHandle_lends (hm : m.InOrder out) (hwaits : m.waits .acquire = false) :
    Lends m out (takeHandle.perform m) := by
  rw [takeHandle, Session.perform_bind_of_ok (Session.perform_get m)]
  rcases hpool : m.pool with _ | pool
  · have hfree : m.isLocked = false := by simpa [Manager.waits, hpool] using hwaits
    exact lockShared_lends hm hfree m.active
  rcases hpop : pool.pop? with _ | ⟨id, rest⟩
  · simp only [hpop]
    rcases newHandle_makes m.active true m with ⟨h, hrun, -, hpooled, hclosed⟩ | ⟨e, he, hrun⟩
    · rw [hrun]
      have hid : Manager.handle? { m with handles := m.handles ++ [h] } m.handles.length = some h :=
        List.getElem?_concat_length
      have hpooled' := (isPooled_of_handle hid).trans hpooled
      have hlent := (hm.ofNewHandle hclosed).lend hm.length_not_mem (Option.isSome_iff_exists.mpr ⟨h, hid⟩)
        fun hsingle => by rw [hpooled'] at hsingle; cases hsingle
      refine .lent _ _ hlent (by rw [hpooled', Bool.and_true]) fun hheld other hother => ?_
      rw [isOpen_newHandle m hclosed] at hother
      exact hheld.mono (fun _ hmem => List.mem_cons_of_mem _ hmem) (fun _ hmem => hmem) other hother
    · rw [hrun]
      exact .failed m _ hm fun _ => ⟨Failure.ne_unlockedTwice_of_isRejection he, rfl, fun hheld => hheld⟩
  · simp only [hpop]
    have hidle : m.idle = id :: rest.items := by
      rw [Manager.idle, hpool, Option.elim_some, Pool.items_of_pop? hpop]
    have hpooled : m.isPooled id = true := (hm.idle id (hidle ▸ List.mem_cons_self)).isPooled
    have hlock : (m.isLocked && m.isPooled id) = m.isLocked := by rw [hpooled, Bool.and_true]
    refine .lent { m with pool := some rest } id (hm.take hpool hpop) hlock fun hheld other hother => ?_
    rcases hheld other hother with hmem | hmem | hmem
    · exact .inl (List.mem_cons_of_mem id hmem)
    · -- what was idle is idle still, or it is the one that was taken
      rw [hidle] at hmem
      rcases List.mem_cons.mp hmem with rfl | hmem
      · exact .inl List.mem_cons_self
      · exact .inr (.inl hmem)
    · exact .inr (.inr hmem)

theorem acquire_eq :
    acquire = (takeHandle >>= fun id => get >>= fun m =>
      if (m.connection? id).isNone then
        ((openHandle id).onFailure Failure.isOrdinary fun _ => unlockFor id) >>= fun _ => pure id
      else pure id) := rfl

/-- A handle that was taken is opened. If that fails, it is given back as one without a connection. -/
theorem openTaken_lends {m₁ : Manager} (htaken : Lends m out (.ok id, m₁)) (hclosed : m₁.isOpen id = false) :
    Lends m out
      ((((openHandle id).onFailure Failure.isOrdinary fun _ => unlockFor id) >>= fun _ =>
        (pure id : Managed HandleId)).perform m₁) := by
  cases htaken with
  | lent _ _ hm₁ hlock hheld =>
  have hbooks := openHandle_sameBooks id m₁
  obtain ⟨hothers, hfails⟩ := openHandle_opens id m₁
  rw [Session.perform_bind, Session.perform_onFailure]
  rcases hrun : (openHandle id).perform m₁ with ⟨e | _, m₂⟩
  all_goals
    rw [hrun] at hbooks hothers hfails
    have hm₂ := hm₁.ofBooks hbooks
    have hpooled : m₂.isPooled id = m₁.isPooled id := hbooks.retains.isPooled (hm₁.known id List.mem_cons_self)
    have hlock₂ : (m₂.isLocked && m₂.isPooled id) = m.isLocked := by
      rw [hpooled, hbooks.isLocked]
      exact hlock
    -- only this handle may be open now without having been before
    have hheld₂ (h : m.Held out []) : m₂.Held (id :: out) [] := by
      intro other hother
      by_cases hne : other = id
      · exact .inl (hne ▸ List.mem_cons_self)
      · rw [hothers other hne] at hother
        rw [hbooks.shared, hbooks.idle]
        exact hheld h other hother
  · by_cases he : e.isOrdinary = true
    · obtain ⟨hsame, hother⟩ := hfails e rfl
      obtain ⟨hback, hordinary⟩ := unlockFor_givesBack hm₂ List.mem_cons_self (hsame.trans hclosed)
      rw [List.erase_cons_head] at hback hordinary
      simp only [he, if_true]
      rcases hunlock : (unlockFor id).perform m₂ with ⟨e' | _, m₃⟩
      all_goals rw [hunlock] at hback hordinary
      · refine .failed m₃ e' hback fun he' => ?_
        have hvalue := (hordinary (.error he')).1
        cases hvalue
      · obtain ⟨-, hlock₃, hheld₃⟩ := hordinary (.ok _)
        exact .failed m₃ e hback fun _ => ⟨hother he, hlock₃.trans hlock₂, hheld₃ ∘ hheld₂⟩
    · simp only [he]
      exact .failed m₂ e (hm₂.sublist (List.sublist_cons_self id out)) fun h => absurd h he
  · exact .lent m₂ id hm₂ hlock₂ hheld₂

/-- **Acquiring a handle** lends it out, or leaves the mutex as it was. -/
theorem acquire_lends (hm : m.InOrder out) (hwaits : m.waits .acquire = false) : Lends m out (acquire.perform m) := by
  have htake := takeHandle_lends hm hwaits
  rw [acquire_eq]
  rcases hrun : takeHandle.perform m with ⟨e | id, m₁⟩
  all_goals rw [hrun] at htake
  · rw [Session.perform_bind_of_error hrun]
    cases htake with
    | failed _ _ hm₁ hordinary => exact .failed m₁ e hm₁ hordinary
  · rw [Session.perform_bind_of_ok hrun, Session.perform_bind_of_ok (Session.perform_get m₁)]
    -- a handle without a connection is opened first
    split
    · rename_i hnone
      exact openTaken_lends htake (by rw [isOpen, Option.isNone_iff_eq_none.mp hnone]; rfl)
    · exact htake

/-! ## §4 Everything else -/

/-- An operation that neither lends a handle out nor takes one back. Unless it is interrupted, the mutex is as before,
and every open handle is held by somebody, if all that were not are those in `closing`. -/
structure Conserves (m : Manager) (out closing : List HandleId) (run : Except Failure α × Manager) : Prop where
  inOrder : run.2.InOrder out
  ordinary : FailsOrdinarily run.1 →
    run.1 ≠ .error .unlockedTwice ∧ run.2.isLocked = m.isLocked ∧ (m.Held out closing → run.2.Held out [])

namespace Conserves

variable {β : Type} {closing : List HandleId}

/-- A step that changes nothing but the world. -/
theorem ofWorld (hm : m.InOrder out) (a : α) (w : World) : Conserves m out [] (.ok a, { m with world := w }) :=
  ⟨hm.ofBooks rfl, fun _ => ⟨nofun, rfl, id⟩⟩

/-- Nothing has happened but that some settings were rejected. -/
theorem rejected (hm : m.InOrder out) {e : Failure} (he : e.isRejection = true) :
    Conserves m out [] ((.error e : Except Failure α), m) :=
  ⟨hm, fun _ => ⟨fun h => Failure.ne_unlockedTwice_of_isRejection he (Except.error.inj h), rfl, id⟩⟩

/-- The books are changed first. The mutex stays as it is, and whatever handle is held no more is about to be closed. -/
theorem after {m₀ : Manager} {closing₀ : List HandleId} {run : Except Failure α × Manager}
    (h : Conserves m out closing run) (hlock : m.isLocked = m₀.isLocked)
    (hheld : m₀.Held out closing₀ → m.Held out closing) : Conserves m₀ out closing₀ run := by
  refine ⟨h.inOrder, fun hordinary => ?_⟩
  obtain ⟨hne, hlock', hheld'⟩ := h.ordinary hordinary
  exact ⟨hne, hlock'.trans hlock, hheld' ∘ hheld⟩

/-- One operation after the other. -/
theorem bind {x : Managed α} {f : α → Managed β} (hx : Conserves m out closing (x.perform m))
    (hf : ∀ a m', x.perform m = (.ok a, m') → m'.InOrder out → m'.isLocked = m.isLocked →
      Conserves m' out [] ((f a).perform m')) :
    Conserves m out closing ((x >>= f).perform m) := by
  rcases hrun : x.perform m with ⟨e | a, m₁⟩
  · rw [Session.perform_bind_of_error hrun]
    rw [hrun] at hx
    -- the second step is not reached
    refine ⟨hx.inOrder, fun h => ?_⟩
    obtain ⟨hne, hlock, hheld⟩ := hx.ordinary (.error (h e rfl))
    exact ⟨fun he => hne (by cases he; rfl), hlock, hheld⟩
  · rw [Session.perform_bind_of_ok hrun]
    rw [hrun] at hx
    -- both steps leave the mutex alone, and so do they together
    obtain ⟨-, hlock, hheld⟩ := hx.ordinary (.ok a)
    have hrest := hf a m₁ hrun hx.inOrder hlock
    refine ⟨hrest.inOrder, fun h => ?_⟩
    obtain ⟨hne, hlock', hheld'⟩ := hrest.ordinary h
    exact ⟨hne, hlock'.trans hlock, hheld' ∘ hheld⟩

end Conserves

/-- Handles that nobody holds are closed. -/
theorem forM_closeConnection_conserves (hm : m.InOrder out) {closing ids : List HandleId}
    (hclosing : ∀ id ∈ closing, id ∈ ids) : Conserves m out closing ((ids.forM closeConnection).perform m) := by
  have hbooks := forM_closeConnection_sameBooks ids m
  refine ⟨hm.ofBooks hbooks, fun h => ?_⟩
  obtain ⟨hvalue, hopen⟩ := forM_closeConnection_closes ids m h
  refine ⟨by rw [hvalue]; exact nofun, hbooks.isLocked, fun hheld => ?_⟩
  exact hheld.closed hbooks.shared hbooks.idle hopen hclosing

/-- **Draining the pool** closes what was idle. -/
theorem drainPool_conserves (hm : m.InOrder out) : Conserves m out [] (drainPool.perform m) := by
  rw [drainPool, Session.perform_bind_of_ok (Session.perform_get m)]
  rcases hpool : m.pool with _ | pool
  · exact .ofWorld hm () m.world
  · have hitems : ∀ id ∈ pool.items, id ∈ pool.toList := fun id hmem => List.mem_reverse.mpr hmem
    refine (forM_closeConnection_conserves (hm.emptied hpool) hitems).after rfl fun hbefore other hother => ?_
    rcases hbefore other hother with hmem | hmem | hmem | hmem
    · exact .inl hmem
    · rw [Manager.idle, hpool, Option.elim_some] at hmem
      exact .inr (.inr (.inr hmem))
    · exact .inr (.inr (.inl hmem))
    · cases hmem

/-- Draining the pool fails only by an interrupt. -/
theorem drainPool_ok (h : FailsOrdinarily (drainPool.perform m).1) : (drainPool.perform m).1 = .ok () := by
  rw [drainPool, Session.perform_bind_of_ok (Session.perform_get m)] at h ⊢
  rcases hpool : m.pool with _ | pool
  all_goals simp only [hpool] at h ⊢
  · rfl
  · rw [Session.perform_bind_of_ok (Session.perform_set m _)] at h ⊢
    exact (forM_closeConnection_closes _ _ h).1

theorem perform_closeShared (hfree : m.isLocked = false) :
    closeShared.perform m =
      ((m.shared.toList ++ m.ready.toList).forM closeConnection).perform
        { m with shared := none, ready := none, isLocked := false } := by
  rw [closeShared, Session.perform_bind_of_ok (perform_lock hfree),
    Session.perform_bind_of_ok (Session.perform_get _), Session.perform_bind_of_ok (Session.perform_set _ _)]
  simp only [List.forM_eq_forM, List.forM_append]

/-- **Closing the shared handle**, while nobody has it. -/
theorem closeShared_conserves (hm : m.InOrder out) (hfree : m.isLocked = false) :
    Conserves m out [] (closeShared.perform m) := by
  rw [perform_closeShared hfree]
  have hpooled := hm.pooled_of_free hfree
  -- what is kept is forgotten first and closed afterwards, so that an interrupt finds the books in order
  have hforgotten : InOrder { m with shared := none, ready := none, isLocked := false } out := by
    have hkept : InOrder { m with shared := none, ready := none } out :=
      hm.ofKept hpooled fun other h => h.elim nofun nofun
    exact hkept.ofUnlock hpooled
  have hshared : ∀ id ∈ m.shared.toList, id ∈ m.shared.toList ++ m.ready.toList :=
    fun _ hmem => List.mem_append_left _ hmem
  refine (forM_closeConnection_conserves hforgotten hshared).after hfree.symm fun hbefore other hother => ?_
  rcases hbefore other hother with hmem | hmem | hmem | hmem
  · exact .inl hmem
  · exact .inr (.inl hmem)
  · -- it was shared until now
    refine .inr (.inr (.inr ?_))
    rw [hmem]
    exact List.mem_singleton_self other
  · cases hmem

/-- **Shutting down**, while nobody has the shared handle. -/
theorem shutdown_conserves (hm : m.InOrder out) (hfree : m.isLocked = false) :
    Conserves m out [] (shutdown.perform m) :=
  (closeShared_conserves hm hfree).bind fun _ _ _ hm' _ => drainPool_conserves hm'

/-- Starting acquires a handle and gives it back. That there is none to be had is only reported. -/
theorem perform_start (m : Manager) :
    start.perform m =
      match acquire.perform m with
      | (.ok id, m₁) => (release id).perform m₁
      | (.error e, m₁) =>
        if e.isOrdinary then
          (say .error ("Unable to open directory connection at startup: " ++ e.message)).perform m₁
        else (.error e, m₁) := by
  have hopened : (do return some (← acquire) : Managed (Option HandleId)).perform m =
      ((acquire.perform m).1.map some, (acquire.perform m).2) := by
    rw [Session.perform_bind]
    rcases acquire.perform m with ⟨e | id, m₁⟩ <;> rfl
  rw [start, Session.perform_bind, Session.perform_rescue, hopened]
  rcases acquire.perform m with ⟨e | id, m₁⟩
  · rcases he : e.isOrdinary with _ | _
    · simp only [Except.map, he, Bool.false_eq_true, if_false]
    · simp only [Except.map, he, if_true]
      rfl
  · rfl

/-- **Starting** leaves no handle out. -/
theorem start_conserves (hm : m.InOrder out) (hwaits : m.waits .acquire = false) :
    Conserves m out [] (start.perform m) := by
  have hlends := acquire_lends hm hwaits
  rw [perform_start]
  rcases hrun : acquire.perform m with ⟨e | id, m₁⟩
  · rw [hrun] at hlends
    cases hlends with
    | failed _ _ hm₁ hordinary =>
      -- nothing was lent, and an ordinary failure has left the mutex and the single handles alone
      by_cases he : e.isOrdinary = true
      · obtain ⟨-, hlock, hheld⟩ := hordinary he
        simp only [he, if_true]
        exact ⟨hm₁.ofBooks rfl, fun _ => ⟨nofun, hlock, hheld⟩⟩
      · simp only [he]
        exact ⟨hm₁, fun h => absurd (h e rfl) he⟩
  · rw [hrun] at hlends
    cases hlends with
    | lent _ _ hm₁ hlock hheld =>
    -- what was lent is given back at once
    obtain ⟨hback, hordinary⟩ := release_givesBack hm₁ List.mem_cons_self
    rw [List.erase_cons_head] at hback hordinary
    refine ⟨hback, fun h => ?_⟩
    obtain ⟨hvalue, hlock', hheld'⟩ := hordinary h
    exact ⟨by rw [hvalue]; exact nofun, hlock'.trans hlock, hheld' ∘ hheld⟩

/-- Nobody gets the mutex that is held. -/
theorem perform_lock_of_held (hlocked : m.isLocked = true) : lock.perform m = (.error .blocked, m) := by
  rw [lock, Session.perform_bind_of_ok (Session.perform_get m), hlocked]
  rfl

/-- Once what was idle is closed, nobody has the shared handle, unless the operation waits for whoever does. -/
theorem free_of_retire {pool : Option (Pool HandleId)} {s : Settings} (hpooling : s.poolingEnabled = true)
    (hrun : ((pool.elim [] Pool.toList).forM closeConnection).perform m = (.ok ⟨⟩, m'))
    (hwaits : m'.isLocked = true → ((retire pool s).perform m).1 ≠ .error .blocked) : m'.isLocked = false := by
  rcases hlocked : m'.isLocked with _ | _
  · rfl
  · have hblocked : closeShared.perform m' = (.error .blocked, m') :=
      Session.perform_bind_of_error (perform_lock_of_held hlocked) _
    refine absurd ?_ (hwaits hlocked)
    rw [retire, Session.perform_bind_of_ok hrun, if_pos hpooling, Session.perform_bind_of_error hblocked]

/-- What was idle is closed, and the shared handle too if there is a pool from now on. By then nobody has it, unless
the operation waits for whoever does. -/
theorem retire_conserves (hm : m.InOrder out) {closing : List HandleId} {pool : Option (Pool HandleId)} {s : Settings}
    (hclosing : ∀ id ∈ closing, id ∈ pool.elim [] Pool.toList)
    (hwaits : s.poolingEnabled = true → m.isLocked = true → ((retire pool s).perform m).1 ≠ .error .blocked) :
    Conserves m out closing ((retire pool s).perform m) := by
  -- the mutex is not needed for what was idle, only for the shared handle after it
  refine (forM_closeConnection_conserves hm hclosing).bind fun _ m₁ hrun hm₁ hlock => ?_
  split
  · rename_i hpooling
    have hfree := free_of_retire hpooling hrun fun hlocked => hwaits hpooling (hlock.symm.trans hlocked)
    exact (closeShared_conserves hm₁ hfree).bind fun _ m₂ _ hm₂ _ => .ofWorld hm₂ () _
  · exact .ofWorld hm₁ () _

/-- What was idle under the old settings is idle no more, and is closed next. -/
theorem activate_conserves (hm : m.InOrder out) {snapshot : Snapshot} (chosen : Registry.Collaborators) {h : Handle}
    (hid : m.handle? id = some h) (hsnapshot : h.snapshot = snapshot)
    (hpooled : h.pooled = snapshot.settings.poolingEnabled) (hfresh : id ∉ out)
    (hwaits : snapshot.settings.poolingEnabled = true → m.isLocked = true →
      ((retire m.pool snapshot.settings).perform (activate snapshot chosen id m)).1 ≠ .error .blocked) :
    Conserves m out []
      ((retire m.pool snapshot.settings >>= fun _ => (pure id : Managed HandleId)).perform
        (activate snapshot chosen id m)) := by
  -- what was idle is now to be retired
  have hidle : ∀ other ∈ m.idle, other ∈ m.pool.elim [] Pool.toList := by
    intro other hmem
    rw [Manager.idle] at hmem
    rcases hpool : m.pool with _ | pool
    all_goals rw [hpool] at hmem
    · cases hmem
    · exact List.mem_reverse.mpr hmem
  have hretire := (retire_conserves (hm.ofActivate chosen hid hsnapshot hpooled hfresh) hidle hwaits).bind
    (f := fun _ => (pure id : Managed HandleId)) fun _ m' _ hm' _ => .ofWorld hm' id m'.world
  refine hretire.after rfl fun hbefore other hother => ?_
  -- a handle is given up for one of four reasons, which the other side lists in another order
  rcases hbefore other hother with hmem | hmem | hmem | hmem
  · exact .inl hmem
  · exact .inr (.inr (.inr hmem))
  · exact .inr (.inr (.inl hmem))
  · cases hmem

/-- **New settings** are rejected, or they close what was idle, and the shared handle if there is a pool from now
on. -/
theorem reconfigure_conserves (hm : m.InOrder out) {snapshot : Snapshot}
    (hwaits : m.waits (.reconfigure snapshot.settings) = true →
      ((reconfigure snapshot).perform m).1 ≠ .error .blocked) :
    Conserves m out [] ((reconfigure snapshot).perform m) := by
  rw [perform_reconfigure] at hwaits ⊢
  rcases hchosen : m.registry.collaborators snapshot.settings with e | chosen
  · exact .rejected hm (Registry.collaborators_rejected _ _ e hchosen)
  simp only [hchosen] at hwaits ⊢
  rw [Session.perform_bind_of_ok (perform_forM_note chosen.notes m)] at hwaits ⊢
  generalize hnoted :
    ({ m with world := { m.world with journal := m.world.journal ++ chosen.notes } } : Manager) = m₁ at hwaits ⊢
  have hm₁ : m₁.InOrder out := hnoted ▸ hm.ofBooks rfl
  have hlock₁ : m₁.isLocked = m.isLocked := hnoted ▸ rfl
  have hheld₁ : m.Held out [] → m₁.Held out [] := fun h => hnoted ▸ h
  rcases newHandle_makes snapshot snapshot.settings.poolingEnabled m₁ with
    ⟨h, hnew, hsnapshot, hpooled, hclosed⟩ | ⟨e, he, hnew⟩
  · rw [Session.perform_bind_of_ok hnew, Session.perform_bind_of_ok (Session.perform_get _),
      Session.perform_bind_of_ok (Session.perform_set _ _)] at hwaits ⊢
    have hid : Manager.handle? { m₁ with handles := m₁.handles ++ [h] } m₁.handles.length = some h :=
      List.getElem?_concat_length
    -- the new handle has a number that nobody has, and no connection
    have hfresh : m₁.handles.length ∉ out := fun hmem => hm₁.length_not_mem (List.mem_append_right _ hmem)
    have hactivate := activate_conserves (hm₁.ofNewHandle hclosed) chosen hid hsnapshot hpooled hfresh
      fun hpooling hlocked hblocked => by
        have hwaiting : m.waits (.reconfigure snapshot.settings) = true := by
          have hlocked : m₁.isLocked = true := hlocked
          rw [Manager.waits, hpooling, ← hlock₁, hlocked]
          rfl
        refine hwaits hwaiting ?_
        rw [Session.perform_bind, ← Prod.eta ((retire _ _).perform _), hblocked]
    refine hactivate.after hlock₁ fun hbefore other hother => ?_
    exact hheld₁ hbefore other ((isOpen_newHandle m₁ hclosed other).symm.trans hother)
  · rw [Session.perform_bind_of_error hnew]
    exact (Conserves.rejected hm₁ he).after hlock₁ hheld₁

/-- A block ends with an exception: its handle is closed, and then whatever is idle. -/
theorem abandon_givesBack (hm : m.InOrder out) (hid : id ∈ out) :
    GivesBack m out id ((close id >>= fun _ => drainPool).perform m) := by
  have hclose := close_givesBack hm hid
  rcases hrun : (close id).perform m with ⟨e | _, m₁⟩
  · rw [Session.perform_bind_of_error hrun]
    rwa [hrun] at hclose
  · rw [Session.perform_bind_of_ok hrun]
    rw [hrun] at hclose
    obtain ⟨-, hlock, hheld⟩ := hclose.ordinary (.ok _)
    have hdrain := drainPool_conserves hclose.inOrder
    refine ⟨hdrain.inOrder, fun h => ?_⟩
    obtain ⟨-, hlock', hheld'⟩ := hdrain.ordinary h
    exact ⟨drainPool_ok h, hlock'.trans hlock, hheld' ∘ hheld⟩

/-- **A use of a handle** that is out. It may fail in any way. -/
theorem onHandle_conserves (hm : m.InOrder out) (hid : id ∈ out) (x : Handle → Exchange α) :
    ((onHandle id x).perform m).2.InOrder out ∧ ((onHandle id x).perform m).2.isLocked = m.isLocked ∧
      (m.Held out [] → ((onHandle id x).perform m).2.Held out []) := by
  have hbooks := onHandle_sameBooks id x m
  refine ⟨hm.ofBooks hbooks, hbooks.isLocked, fun hheld other hother => ?_⟩
  -- the handle in use is out; any other is as open as it was
  by_cases hne : other = id
  · exact .inl (hne ▸ hid)
  · rw [hbooks.shared, hbooks.idle]
    refine hheld other ?_
    rw [← hother]
    rcases hc : m.connection? id with _ | c
    · obtain ⟨e, hclosed⟩ := perform_onHandle_of_closed hc x
      rw [hclosed]
    · obtain ⟨h, hid', hc⟩ := of_connection?_eq_some hc
      rw [perform_onHandle_of_open hid' hc]
      change _ = ((m.setConnection id _).connection? other).isSome
      rw [connection?_setConnection, if_neg hne]
      rfl

end Managed

end DirectoryLogin

import DirectoryLogin.Proofs.Connection.Unbinding
import DirectoryLogin.Proofs.Manager.Completing
import DirectoryLogin.Proofs.Manager.Stock
/-!
# What a Failure Leaves Behind

Whenever nobody else has a handle, a failure leaves the manager without a connection that could be handed out again: no
handle is idle, and the shared one is closed. This holds whether a handle could not be opened, or what was done with it
has failed. So the next handle gets a new connection.

- `Manager.Cleared`: there is no connection to be handed out again.
- `Managed.acquire_clears`: after a handle could not be had.
- `Managed.Abandoned.cleared`: after a block has failed.
- `Managed.acquire_anew`: the next connection is opened after all of that.
-/

namespace DirectoryLogin

namespace Manager

variable {m m' : Manager}

/-- No handle is idle, and the shared one has no connection. -/
structure Cleared (m : Manager) : Prop where
  idle : m.idle = []
  shared : ∀ id, m.shared = some id → m.isOpen id = false

/-- Neither what is idle nor what is shared has changed, and nothing has been opened. -/
theorem Cleared.same (hm : m.Cleared) (hidle : m'.idle = m.idle) (hshared : m'.shared = m.shared)
    (hopen : ∀ id, m'.isOpen id = m.isOpen id) : m'.Cleared where
  idle := hidle.trans hm.idle
  shared id hid := (hopen id).trans (hm.shared id (hshared ▸ hid))

theorem Cleared.ofUnlock (hm : m.Cleared) : Cleared { m with isLocked := false } :=
  hm.same rfl rfl fun _ => rfl

theorem idle_of_no_pool (hpool : m.pool = none) : m.idle = [] := by
  rw [Manager.idle, hpool, Option.elim_none]

end Manager

namespace Managed

open Manager

variable {m m₁ m₂ : Manager} {id : HandleId}

/-! ## §1 A handle that could not be had -/

/-- Choosing the shared handle fails only if the settings are rejected. By then the one that was shared is closed. -/
theorem sharedHandle_clears {snapshot : Snapshot} {e : Failure}
    (h : (sharedHandle snapshot).perform m = (.error e, m₁)) (hordinary : e.isOrdinary = true) :
    e.isRejection = true ∧ ∀ id, m₁.shared = some id → m₁.isOpen id = false := by
  rw [perform_sharedHandle] at h
  split at h
  · cases h
  have hbooks := forM_closeConnection_sameBooks m.shared.toList m
  have hcloses := forM_closeConnection_closes m.shared.toList m
  rcases hrun : (m.shared.toList.forM closeConnection).perform m with ⟨e' | _, m₀⟩
  all_goals rw [hrun] at hbooks hcloses
  · rw [Session.perform_bind_of_error hrun] at h
    cases h
    have hvalue := (hcloses (.error hordinary)).1
    cases hvalue
  · rw [Session.perform_bind_of_ok hrun, shareNew, Session.perform_bind_of_ok (Session.perform_get m₀),
      Session.perform_bind_of_ok (Session.perform_set m₀ _)] at h
    rcases hready : m₀.readyFor? snapshot with _ | id
    all_goals rw [hready] at h
    · -- no handle could be made, and nothing has changed since the old one was closed
      rcases newHandle_makes snapshot false { m₀ with ready := none } with ⟨_, hnew, -⟩ | ⟨e, he, hnew⟩
      · rw [Session.perform_bind_of_ok hnew] at h
        cases h
      · rw [Session.perform_bind_of_error hnew] at h
        cases h
        refine ⟨he, fun id hid => ?_⟩
        have hid : m.shared = some id := hbooks.shared.symm.trans hid
        refine Bool.eq_false_iff.mpr fun hopen => (((hcloses (.ok _)).2 id).mp hopen).2 ?_
        rw [hid]
        exact List.mem_singleton_self id
    · cases h

/-- Whatever handle is taken, if it is closed then there is no other one that is open. -/
theorem takeHandle_clears (hm : m.InOrder []) (hs : m.Stocked []) (hwaits : m.waits .acquire = false)
    (h : takeHandle.perform m = (.ok id, m₁)) (hclosed : m₁.isOpen id = false) : m₁.Cleared := by
  rw [takeHandle, Session.perform_bind_of_ok (Session.perform_get m)] at h
  rcases hpool : m.pool with _ | pool
  · have hfree : m.isLocked = false := by simpa [Manager.waits, hpool] using hwaits
    have hspares := lockShared_spares hm hfree m.active
    simp only [hpool] at h
    rw [h] at hspares
    rw [Session.perform_bind_of_ok (perform_lock hfree)] at h
    have hchosen := Session.of_perform_onFailure_ok h
    have hshares := sharedHandle_shares hm.ofLock (hm.pooled_of_free hfree) rfl m.active
    rw [hchosen] at hshares
    -- the handle is the shared one
    cases hshares with
    | shared _ _ hm₁ hsingle =>
      refine ⟨idle_of_no_pool (hspares.pool.trans hpool), fun other hother => ?_⟩
      have hshared := (hm₁.single id List.mem_cons_self hsingle).2
      rw [hshared, Option.some.injEq] at hother
      exact hother ▸ hclosed
  · have hsole := hs.sole (by rw [hpool]; rfl)
    have hshared {m₁ : Manager} (hsame : m₁.shared = m.shared) (other : HandleId) (hother : m₁.shared = some other) :
        m₁.isOpen other = false := by
      rw [hsame, hsole] at hother
      cases hother
    simp only [hpool] at h
    rcases hpop : pool.pop? with _ | ⟨top, rest⟩
    · simp only [hpop] at h
      rcases newHandle_makes m.active true m with ⟨_, hnew, -⟩ | ⟨e, he, hnew⟩
      · rw [hnew] at h
        cases h
        refine ⟨?_, hshared rfl⟩
        change m.idle = []
        rw [Manager.idle, hpool, Option.elim_some, Pool.items_of_pop?_eq_none hpop]
      · rw [hnew] at h
        cases h
    · simp only [hpop] at h
      cases h
      -- below a closed handle there is nothing
      have hidle : m.idle = id :: rest.items := by rw [Manager.idle, hpool, Option.elim_some, Pool.items_of_pop? hpop]
      refine ⟨?_, hshared rfl⟩
      change rest.items = []
      rcases hitems : rest.items with _ | ⟨next, items⟩
      · rfl
      · have hopen := hs.stacked id (by rw [hidle, hitems]; exact List.mem_cons_self)
        have hclosed : m.isOpen id = false := hclosed
        rw [hclosed] at hopen
        cases hopen

/-- A handle fails to be taken only if the settings are rejected, and then there is no other one that is open. -/
theorem takeHandle_fails (hm : m.InOrder []) (hs : m.Stocked []) (hwaits : m.waits .acquire = false) {e : Failure}
    (h : takeHandle.perform m = (.error e, m₁)) (hordinary : e.isOrdinary = true) :
    e.isRejection = true ∧ m₁.Cleared := by
  rw [takeHandle, Session.perform_bind_of_ok (Session.perform_get m)] at h
  rcases hpool : m.pool with _ | pool
  · -- without a pool the single handle is taken under the mutex, which was free
    have hfree : m.isLocked = false := by simpa [Manager.waits, hpool] using hwaits
    have hspares := lockShared_spares hm hfree m.active
    simp only [hpool] at h
    rw [h] at hspares
    rw [Session.perform_bind_of_ok (perform_lock hfree), Session.perform_onFailure] at h
    have hshares := sharedHandle_shares hm.ofLock (hm.pooled_of_free hfree) rfl m.active
    rcases hchosen : (sharedHandle m.active).perform { m with isLocked := true } with ⟨e' | id, m₂⟩
    · rw [hchosen] at h hshares
      cases hshares with
      | failed _ _ _ _ hlocked _ =>
      by_cases he : e'.isOrdinary = true
      · -- the failure was ordinary, so the mutex is given back
        obtain ⟨hfault, hclosed⟩ := sharedHandle_clears hchosen he
        simp only [he, if_true, perform_unlock hlocked] at h
        cases h
        exact ⟨hfault, idle_of_no_pool (hspares.pool.trans hpool), hclosed⟩
      · simp only [he] at h
        cases h
        exact absurd hordinary he
    · rw [hchosen] at h
      cases h
  · -- with a pool only a new handle can fail, and then the pool was empty
    have hsole := hs.sole (by rw [hpool]; rfl)
    simp only [hpool] at h
    rcases hpop : pool.pop? with _ | ⟨top, rest⟩
    · simp only [hpop] at h
      rcases newHandle_makes m.active true m with ⟨_, hnew, -⟩ | ⟨e, he, hnew⟩
      · rw [hnew] at h
        cases h
      · rw [hnew] at h
        cases h
        refine ⟨he, ?_, fun id hid => ?_⟩
        · rw [Manager.idle, hpool, Option.elim_some, Pool.items_of_pop?_eq_none hpop]
        · rw [hsole] at hid
          cases hid
    · simp only [hpop] at h
      cases h

/-- A handle without a connection is taken: either it is opened, or none is open any more. -/
theorem openTaken_clears (hm : m.InOrder [id]) (hclear : m.Cleared) {e : Failure}
    (h : ((openHandle id).onFailure Failure.isOrdinary fun _ => unlockFor id).perform m = (.error e, m₁))
    (hordinary : e.isOrdinary = true) : e.isRetryable = false ∧ m₁.Cleared := by
  have hbooks := openHandle_sameBooks id m
  obtain ⟨hothers, hfails⟩ := openHandle_opens id m
  obtain ⟨handle, hid⟩ := Option.isSome_iff_exists.mp (hm.known id List.mem_cons_self)
  have hrun := perform_openHandle hid
  rw [Session.perform_onFailure] at h
  rcases hopen : (openHandle id).perform m with ⟨e' | _, m₂⟩
  all_goals rw [hopen] at h hrun hbooks hothers hfails
  · have hsame (other : HandleId) : m₂.isOpen other = m.isOpen other := by
      by_cases heq : other = id
      · exact heq ▸ (hfails e' rfl).1
      · exact hothers other heq
    have hclear₂ : m₂.Cleared := hclear.same hbooks.idle hbooks.shared hsame
    by_cases he : e'.isOrdinary = true
    · have hfault : e'.isRetryable = false := by
        have hresult := congrArg Prod.fst hrun
        rcases hestablish : (Connection.establish m.connector m.tls handle.settings).perform m.world with ⟨e₀ | c, w⟩
        all_goals
          rw [hestablish] at hresult
          cases hresult
        obtain ⟨_, _, rfl⟩ := Connection.establish_unreachable hestablish he
        rfl
      simp only [he, if_true, perform_unlockFor] at h
      by_cases hpooled : m₂.isPooled id = true
      · simp only [hpooled, if_true] at h
        cases h
        exact ⟨hfault, hclear₂⟩
      · -- the handle is the shared one, and so the mutex is held
        have hlocked := ((hm.ofBooks hbooks).single id List.mem_cons_self (Bool.eq_false_iff.mpr hpooled)).1
        simp only [hpooled, Bool.false_eq_true, if_false, perform_unlock hlocked] at h
        cases h
        exact ⟨hfault, hclear₂.ofUnlock⟩
    · simp only [he] at h
      cases h
      exact absurd hordinary he
  · cases h

/-- Whoever would have to wait for the mutex gets no handle. -/
theorem acquire_of_waits (hwaits : m.waits .acquire = true) : acquire.perform m = (.error .blocked, m) := by
  obtain ⟨hpool, hlocked⟩ : m.pool = none ∧ m.isLocked = true := by simpa [Manager.waits] using hwaits
  have htake : takeHandle.perform m = (.error .blocked, m) := by
    rw [takeHandle, Session.perform_bind_of_ok (Session.perform_get m)]
    simp only [hpool]
    rw [Session.perform_bind_of_error (perform_lock_of_held hlocked)]
  rw [acquire_eq, Session.perform_bind_of_error htake]

/-- **A failure to acquire a handle** is none that a new connection could mend, and leaves no connection behind. -/
theorem acquire_clears (hm : m.InOrder []) (hs : m.Stocked []) (hwaits : m.waits .acquire = false) {e : Failure}
    (h : acquire.perform m = (.error e, m₁)) (hordinary : e.isOrdinary = true) :
    e.isRetryable = false ∧ m₁.Cleared := by
  have hlends := takeHandle_lends hm hwaits
  rw [acquire_eq] at h
  rcases htake : takeHandle.perform m with ⟨e' | id, m₂⟩
  · rw [Session.perform_bind_of_error htake] at h
    cases h
    -- the handle could not be taken: such a failure is a rejection, and nothing was opened
    obtain ⟨hrejection, hclear⟩ := takeHandle_fails hm hs hwaits htake hordinary
    exact ⟨Failure.not_isRetryable_of_isRejection hrejection, hclear⟩
  · rw [Session.perform_bind_of_ok htake, Session.perform_bind_of_ok (Session.perform_get m₂)] at h
    rw [htake] at hlends
    split at h
    · rename_i hnone
      -- the handle that was taken has no connection yet, so it was opening it that failed
      have hclosed : m₂.isOpen id = false := by
        rw [isOpen, Option.isNone_iff_eq_none.mp hnone]
        rfl
      rcases Session.of_perform_bind_error h with ⟨_, _, -, hpure⟩ | hopen
      · cases hpure
      · exact openTaken_clears hlends.inOrder (takeHandle_clears hm hs hwaits htake hclosed) hopen hordinary
    · cases h

/-! ## §2 A handle that is given up -/

/-- A handle that is taken belongs to a pool if there is one. -/
theorem takeHandle_pooled (hm : m.InOrder []) (hwaits : m.waits .acquire = false)
    (h : takeHandle.perform m = (.ok id, m₁)) : m₁.isPooled id = m₁.pool.isSome := by
  rw [takeHandle, Session.perform_bind_of_ok (Session.perform_get m)] at h
  rcases hpool : m.pool with _ | pool
  · -- without a pool the handle is the shared one, which is not pooled
    have hfree : m.isLocked = false := by simpa [Manager.waits, hpool] using hwaits
    have hspares := lockShared_spares hm hfree m.active
    simp only [hpool] at h
    rw [h] at hspares
    rw [Session.perform_bind_of_ok (perform_lock hfree)] at h
    have hshares := sharedHandle_shares hm.ofLock (hm.pooled_of_free hfree) rfl m.active
    rw [Session.of_perform_onFailure_ok h] at hshares
    cases hshares with
    | shared _ _ _ hsingle => rw [hsingle, hspares.pool, hpool, Option.isSome_none]
  · -- with a pool it is a new one, or one that was idle in it
    simp only [hpool] at h
    rcases hpop : pool.pop? with _ | ⟨top, rest⟩
    · simp only [hpop] at h
      rcases newHandle_makes m.active true m with ⟨handle, hnew, -, hpooled, -⟩ | ⟨e, he, hnew⟩
      · rw [hnew] at h
        cases h
        have hid : Manager.handle? { m with handles := m.handles ++ [handle] } m.handles.length = some handle :=
          List.getElem?_concat_length
        rw [isPooled_of_handle hid, hpooled, hpool, Option.isSome_some]
      · rw [hnew] at h
        cases h
    · simp only [hpop] at h
      cases h
      have hidle : m.idle = id :: rest.items := by rw [Manager.idle, hpool, Option.elim_some, Pool.items_of_pop? hpop]
      exact (hm.idle id (hidle ▸ List.mem_cons_self)).isPooled

theorem acquire_pooled (hm : m.InOrder []) (hwaits : m.waits .acquire = false)
    (h : acquire.perform m = (.ok id, m₁)) : m₁.isPooled id = m₁.pool.isSome := by
  have hlends := takeHandle_lends hm hwaits
  rw [acquire_eq] at h
  obtain ⟨taken, m₀, htake, h⟩ := Session.of_perform_bind_ok h
  rw [Session.perform_bind_of_ok (Session.perform_get m₀)] at h
  rw [htake] at hlends
  have hpooled := takeHandle_pooled hm hwaits htake
  split at h
  · -- opening a handle does not change whether it is pooled
    obtain ⟨_, m₂, hopen, h⟩ := Session.of_perform_bind_ok h
    cases h
    have hbooks := openHandle_sameBooks id m₀
    rw [Session.of_perform_onFailure_ok hopen] at hbooks
    rw [hbooks.retains.isPooled (hlends.inOrder.known id List.mem_cons_self), hpooled, hbooks.pool]
  · cases h
    exact hpooled

/-- What a block leaves that has failed: its handle is closed, the end of its connection is on record, and no handle is
idle. -/
structure Abandoned (m : Manager) (id : HandleId) (m₁ : Manager) : Prop where
  idle : m₁.idle = []
  pool : m₁.pool.isSome = m.pool.isSome
  shared : m₁.shared = m.shared
  closed : m₁.isOpen id = false
  ended : ∀ c, m.connection? id = some c → ⟨c.wire, .unbind⟩ ∈ m₁.world.events

/-- A handle that has been given back after a failure is closed. The end of its connection is on record. -/
theorem of_close_ok (h : (close id).perform m = (.ok (), m₁)) :
    m₁.pool = m.pool ∧ m₁.shared = m.shared ∧ m₁.isOpen id = false ∧
      ∀ c, m.connection? id = some c → ⟨c.wire, .unbind⟩ ∈ m₁.world.events := by
  -- closing a connection leaves the books alone and ends the wire
  have hbooks := closeConnection_sameBooks id m
  have hcloses := closeConnection_closes id m
  rw [close_eq] at h
  obtain ⟨_, m₀, hclose, h⟩ := Session.of_perform_bind_ok h
  rw [hclose] at hbooks hcloses
  have hclosed : m₀.isOpen id = false :=
    Bool.eq_false_iff.mpr fun hopen => (((hcloses (.ok _)).2 id).mp hopen).2 (List.mem_singleton_self id)
  have hended (c : Connection) (hc : m.connection? id = some c) : ⟨c.wire, .unbind⟩ ∈ m₀.world.events := by
    rcases closeConnection_run hc with ⟨w, hrun, -, hevents⟩ | ⟨e, m', hrun, -⟩
    all_goals
      rw [hclose] at hrun
      cases hrun
    exact hevents ▸ List.mem_append_right _ (List.mem_singleton_self _)
  -- the mutex is given back if the handle holds it, and it was held
  rw [perform_unlockFor] at h
  split at h
  · cases h
    exact ⟨hbooks.pool, hbooks.shared, hclosed, hended⟩
  · rcases hlocked : m₀.isLocked with _ | _
    · rw [unlock, Session.perform_bind_of_ok (Session.perform_get m₀), hlocked] at h
      cases h
    · rw [perform_unlock hlocked] at h
      cases h
      exact ⟨hbooks.pool, hbooks.shared, hclosed, hended⟩

/-- What is on record stays on record while handles are closed. -/
theorem mem_events_of_forM_closeConnection {ids : List HandleId}
    (h : (ids.forM closeConnection).perform m = (.ok ⟨⟩, m₁)) {e : Event} (he : e ∈ m.world.events) :
    e ∈ m₁.world.events := by
  induction ids generalizing m with
  | nil =>
    cases h
    exact he
  | cons id rest ih =>
    obtain ⟨_, m₀, hclose, h⟩ := Session.of_perform_bind_ok (f := fun _ => rest.forM closeConnection) h
    refine ih h ?_
    rcases hc : m.connection? id with _ | c
    · rw [perform_closeConnection_of_closed hc] at hclose
      cases hclose
      exact he
    · -- closing adds to the record
      rcases closeConnection_run hc with ⟨w, hrun, -, hevents⟩ | ⟨e', m', hrun, -⟩
      all_goals
        rw [hclose] at hrun
        cases hrun
      exact hevents ▸ List.mem_append_left _ he

/-- A pool that has been drained is empty, and nothing has been opened. -/
theorem of_drainPool_ok (h : drainPool.perform m = (.ok (), m₁)) :
    m₁.idle = [] ∧ m₁.pool.isSome = m.pool.isSome ∧ m₁.shared = m.shared ∧
      (∀ id, m₁.isOpen id = true → m.isOpen id = true) ∧ ∀ e ∈ m.world.events, e ∈ m₁.world.events := by
  rw [drainPool, Session.perform_bind_of_ok (Session.perform_get m)] at h
  rcases hpool : m.pool with _ | pool
  all_goals simp only [hpool] at h
  · cases h
    exact ⟨idle_of_no_pool hpool, congrArg Option.isSome hpool, rfl, fun _ hopen => hopen, fun _ he => he⟩
  · rw [Session.perform_bind_of_ok (Session.perform_set m _)] at h
    have hbooks := forM_closeConnection_sameBooks pool.drain.1 { m with pool := some pool.drain.2 }
    have hcloses := forM_closeConnection_closes pool.drain.1 { m with pool := some pool.drain.2 }
    rw [h] at hbooks hcloses
    exact ⟨hbooks.idle, (congrArg Option.isSome hbooks.pool).trans rfl, hbooks.shared,
      fun id hopen => (((hcloses (.ok _)).2 id).mp hopen).1, fun e he => mem_events_of_forM_closeConnection h he⟩

theorem of_abandon_ok (h : (close id >>= fun _ => drainPool).perform m = (.ok (), m₁)) : Abandoned m id m₁ := by
  obtain ⟨_, m₀, hclose, hdrain⟩ := Session.of_perform_bind_ok h
  obtain ⟨hpool, hshared, hclosed, hended⟩ := of_close_ok hclose
  obtain ⟨hidle, hpool', hshared', hopens, hevents⟩ := of_drainPool_ok hdrain
  refine ⟨hidle, hpool'.trans (congrArg Option.isSome hpool), hshared'.trans hshared,
    Bool.eq_false_iff.mpr fun hopen => ?_, fun c hc => hevents _ (hended c hc)⟩
  rw [hopens id hopen] at hclosed
  cases hclosed

/-- **A block that has failed** leaves no connection behind, if its handle was the only one that was out. -/
theorem Abandoned.cleared (h : Abandoned m id m₁) (hm : m.InOrder [id]) (hs : m.Stocked [id])
    (hpooled : m.isPooled id = m.pool.isSome) : m₁.Cleared := by
  refine ⟨h.idle, fun other hother => ?_⟩
  rw [h.shared] at hother
  rcases hpool : m.pool with _ | pool
  · -- without a pool the handle was the shared one
    rw [hpool] at hpooled
    rw [(hm.single id List.mem_cons_self hpooled).2, Option.some.injEq] at hother
    exact hother ▸ h.closed
  · rw [hs.sole (by rw [hpool]; rfl)] at hother
    cases hother

/-! ## §3 The next handle -/

theorem takeHandle_anew (hm : m.Cleared) (hkept : m.pool = none → (m.sharedFor? m.active).isSome)
    (h : takeHandle.perform m = (.ok id, m₁)) : m₁.isOpen id = false ∧ m₁.world = m.world := by
  rw [takeHandle, Session.perform_bind_of_ok (Session.perform_get m)] at h
  rcases hpool : m.pool with _ | pool
  · simp only [hpool] at h
    rcases hlocked : m.isLocked with _ | _
    · obtain ⟨shared, hshared⟩ := Option.isSome_iff_exists.mp (hkept hpool)
      rw [Session.perform_bind_of_ok (perform_lock hlocked)] at h
      have hchosen := Session.of_perform_onFailure_ok h
      -- the handle that is shared already is taken, and it has been closed
      have hstill : Manager.sharedFor? { m with isLocked := true } m.active = some shared := hshared
      rw [perform_sharedHandle, hstill] at hchosen
      cases hchosen
      exact ⟨hm.shared id (Option.filter_eq_some_iff.mp hshared).1, rfl⟩
    · rw [Session.perform_bind_of_error (perform_lock_of_held hlocked)] at h
      cases h
  · simp only [hpool] at h
    rcases hpop : pool.pop? with _ | ⟨top, rest⟩
    · simp only [hpop] at h
      rcases newHandle_makes m.active true m with ⟨handle, hnew, -, -, hclosed⟩ | ⟨e, he, hnew⟩
      · rw [hnew] at h
        cases h
        have hnone : m.handle? m.handles.length = none := List.getElem?_eq_none (Nat.le_refl _)
        refine ⟨?_, rfl⟩
        rw [isOpen_newHandle m hclosed, isOpen, Manager.connection?, hnone]
        rfl
      · rw [hnew] at h
        cases h
    · have hidle := hm.idle
      rw [Manager.idle, hpool, Option.elim_some, Pool.items_of_pop? hpop] at hidle
      cases hidle

/-- **The next connection is a new one**, if there is none to be handed out again: it is opened after everything that
there is now. -/
theorem acquire_anew (hm : m.Cleared) (hkept : m.pool = none → (m.sharedFor? m.active).isSome)
    (h : acquire.perform m = (.ok id, m₁)) :
    ∃ c, m₁.connection? id = some c ∧ m.world.wires.length < c.wire := by
  rw [acquire_eq] at h
  obtain ⟨taken, m₀, htake, h⟩ := Session.of_perform_bind_ok h
  -- the handle that is taken has no connection, so it is opened
  obtain ⟨hclosed, hworld⟩ := takeHandle_anew hm hkept htake
  have hnone : m₀.connection? taken = none := Option.not_isSome_iff_eq_none.mp (Bool.eq_false_iff.mp hclosed)
  rw [Session.perform_bind_of_ok (Session.perform_get m₀), hnone] at h
  obtain ⟨_, m₂, hopen, h⟩ := Session.of_perform_bind_ok h
  cases h
  have hopen := Session.of_perform_onFailure_ok hopen
  -- opening succeeded, so there is a handle, and the connection was established
  rcases hid : m₀.handle? id with _ | handle
  · rw [perform_openHandle_of_none hid] at hopen
    cases hopen
  rw [perform_openHandle hid] at hopen
  rcases hestablish : (Connection.establish m₀.connector m₀.tls handle.settings).perform m₀.world with ⟨e | c, w⟩
  all_goals rw [hestablish] at hopen
  · cases hopen
  · cases hopen
    obtain ⟨w₀, hgrows, hwire, -⟩ := Connection.establish_engages hestablish
    -- its wire is behind all wires that there were
    refine ⟨c, ?_, ?_⟩
    · refine (connection?_setConnection m₀ id id (some c)).trans ?_
      rw [if_pos rfl, hid]
      rfl
    · have hlength := hgrows.length
      rw [hworld] at hlength
      omega

end Managed

end DirectoryLogin

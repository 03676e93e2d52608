import DirectoryLogin.Proofs.Manager.Invariants
/-!
# Which Handles are Open

Whoever has a handle has an open one. An idle handle that was never opened can only be the one that came with the pool,
at the bottom: whatever is put on top of it was out before. And there is no shared handle beside a pool.

So when the handle on top turns out to be closed there is nothing below it, and failing to open it leaves the pool
empty.

- `Manager.Spares`, `Manager.Leaves`: what an operation does not close, and what else it leaves alone.
- `Manager.Stocked`: the invariant.
- `Desk.run_stocked`: it holds after every proper run from a new manager, interrupted or not.
-/

namespace DirectoryLogin

namespace Manager

variable {m m' : Manager} {out out' : List HandleId} {id : HandleId} {P : HandleId → Prop}

/-! ## §1 Handles that are not closed -/

/-- The pool is the same, and of the handles with `P`, all that were open are open. -/
structure Spares (P : HandleId → Prop) (m m' : Manager) : Prop where
  pool : m'.pool = m.pool
  opens : ∀ id, P id → m.isOpen id = true → m'.isOpen id = true

instance : IsPreorder Manager (Spares P) where
  refl _ := ⟨rfl, fun _ _ hopen => hopen⟩
  trans _ _ _ h g := ⟨g.pool.trans h.pool, fun id hid hopen => g.opens id hid (h.opens id hid hopen)⟩

/-- In addition, the same handle is shared. -/
structure Leaves (P : HandleId → Prop) (m m' : Manager) : Prop extends Spares P m m' where
  shared : m'.shared = m.shared

instance : IsPreorder Manager (Leaves P) where
  refl m := ⟨refl_of _ m, rfl⟩
  trans _ _ _ h g := ⟨trans_of _ h.toSpares g.toSpares, g.shared.trans h.shared⟩

theorem Spares.idle (h : Spares P m m') : m'.idle = m.idle := by
  rw [Manager.idle, Manager.idle, h.pool]

/-- No handle has changed. -/
theorem Spares.ofHandles (hpool : m'.pool = m.pool) (hhandles : m'.handles = m.handles) : Spares P m m' where
  pool := hpool
  opens id _ hopen := by rwa [isOpen, connection?, handle?, hhandles]

/-- A handle gets a connection. -/
theorem Leaves.ofConnection {c : Connection} {w : World} :
    Leaves P m { m.setConnection id (some c) with world := w } := by
  refine ⟨⟨rfl, fun other _ hopen => ?_⟩, rfl⟩
  change ((m.setConnection id (some c)).connection? other).isSome = true
  rw [Managed.connection?_setConnection]
  split
  · rename_i heq
    -- a handle that is open is there
    obtain ⟨d, hd⟩ := Option.isSome_iff_exists.mp hopen
    obtain ⟨h, hid, -⟩ := of_connection?_eq_some hd
    rw [← heq, hid]
    rfl
  · exact hopen

end Manager

namespace Managed

open Manager

variable {α : Type} {m : Manager} {id : HandleId} {P : HandleId → Prop}

theorem onWorld_leaves (x : Session World α) : (onWorld x).Respects (Leaves P) :=
  fun _ => ⟨.ofHandles rfl rfl, rfl⟩

theorem onConnection_leaves (id : HandleId) (x : Exchange α) : (onConnection id x).Respects (Leaves P) := by
  intro m
  rw [perform_onConnection]
  rcases m.connection? id with _ | c
  · exact refl_of _ m
  · exact .ofConnection

theorem onHandle_leaves (id : HandleId) (x : Handle → Exchange α) : (onHandle id x).Respects (Leaves P) := by
  refine .bind_get fun m => ?_
  rcases m.handle? id with _ | h
  · exact refl_of _ m
  · exact onConnection_leaves id (x h) m

theorem openHandle_leaves (id : HandleId) : (openHandle id).Respects (Leaves P) := by
  intro m
  rcases hid : m.handle? id with _ | h
  · rw [perform_openHandle_of_none hid]
    exact refl_of _ m
  · rw [perform_openHandle hid]
    rcases (Connection.establish m.connector m.tls h.settings).perform m.world with ⟨e | c, w⟩
    · exact ⟨.ofHandles rfl rfl, rfl⟩
    · exact .ofConnection

theorem newHandle_leaves (snapshot : Snapshot) (pooled : Bool) : (newHandle snapshot pooled).Respects (Leaves P) := by
  intro m
  rcases newHandle_makes snapshot pooled m with ⟨h, hrun, -, -, hclosed⟩ | ⟨e, he, hrun⟩
  · rw [hrun]
    refine ⟨⟨rfl, fun other _ hopen => ?_⟩, rfl⟩
    rwa [isOpen_newHandle m hclosed]
  · rw [hrun]
    exact refl_of _ m

/-- **Closing a handle** closes no other one, however it ends. -/
theorem closeConnection_leaves (hid : ¬ P id) : (closeConnection id).Respects (Leaves P) := by
  have hforget (m : Manager) : Leaves P m (m.setConnection id none) := by
    refine ⟨⟨rfl, fun other hother hopen => ?_⟩, rfl⟩
    have hne : other ≠ id := fun heq => hid (heq ▸ hother)
    rwa [isOpen, connection?_setConnection, if_neg hne]
  refine .bind_get fun m => ?_
  split
  · exact refl_of _ m
  · exact Session.Respects.bind (.rescue_if (onConnection_leaves id _) fun _ _ => onWorld_leaves _)
      (fun _ => .modify hforget) m

theorem forM_closeConnection_leaves {ids : List HandleId} (hids : ∀ id ∈ ids, ¬ P id) :
    (ids.forM closeConnection).Respects (Leaves P) := by
  induction ids with
  | nil => exact .pure _
  | cons id rest ih =>
    exact .bind (closeConnection_leaves (hids id List.mem_cons_self)) fun _ =>
      ih fun other hother => hids other (List.mem_cons_of_mem id hother)

theorem unlock_leaves : unlock.Respects (Leaves P) := by
  refine .bind_get fun m => ?_
  split
  · exact refl_of _ m
  · exact ⟨.ofHandles rfl rfl, rfl⟩

theorem unlockFor_leaves (id : HandleId) : (unlockFor id).Respects (Leaves P) := by
  refine .bind_get fun m => ?_
  split
  · exact unlock_leaves m
  · exact refl_of _ m

/-- Choosing the shared handle closes at most the one that was shared. -/
theorem sharedHandle_spares (hshared : ∀ id, m.shared = some id → ¬ P id) (snapshot : Snapshot) :
    Spares P m ((sharedHandle snapshot).perform m).2 := by
  have hshare (id : HandleId) : Session.Respects (Spares P) (do
      modify fun m : Manager => { m with shared := some id }
      return id) := .bind (.modify fun _ => .ofHandles rfl rfl) fun _ => .pure _
  -- what is closed is the shared handle
  have hclose : ∀ id ∈ m.shared.toList, ¬ P id := fun id hid => hshared id (Option.mem_toList.mp hid)
  -- a new one is shared, or one that is ready
  have hnew : (shareNew snapshot).Respects (Spares P) := by
    intro m
    have hforget : Spares P m { m with ready := none } := .ofHandles rfl rfl
    rw [shareNew, Session.perform_bind_of_ok (Session.perform_get m),
      Session.perform_bind_of_ok (Session.perform_set m _)]
    refine trans_of _ hforget ?_
    rcases m.readyFor? snapshot with _ | id
    · exact Session.Respects.bind ((newHandle_leaves snapshot false).mono fun _ _ h => h.toSpares) hshare _
    · exact Session.Respects.bind (.pure id) hshare _
  rw [perform_sharedHandle]
  split
  · exact refl_of _ m
  · exact Session.Respects.bind ((forM_closeConnection_leaves hclose).mono fun _ _ h => h.toSpares) (fun _ => hnew) m

end Managed

namespace Manager

variable {m m' : Manager} {out out' : List HandleId} {id : HandleId}

/-! ## §2 The invariant -/

/-- Every handle that is out is open, and so is every idle one but the one at the bottom. Beside a pool no handle is
shared. -/
structure Stocked (m : Manager) (out : List HandleId) : Prop where
  lent : ∀ id ∈ out, m.isOpen id = true
  stacked : ∀ id ∈ m.idle.dropLast, m.isOpen id = true
  sole : m.pool.isSome = true → m.shared = none

namespace Stocked

/-- Nothing is closed that has to be open. -/
theorem ofLeaves (hm : m.Stocked out) (h : Leaves (fun id => id ∈ m.idle ∨ id ∈ out') m m')
    (hout : ∀ id ∈ out', id ∈ out) : m'.Stocked out' where
  lent id hid := h.opens id (.inr hid) (hm.lent id (hout id hid))
  stacked id hid := by
    rw [h.idle] at hid
    exact h.opens id (.inl (List.dropLast_subset _ hid)) (hm.stacked id hid)
  sole hpool := by
    rw [h.shared]
    exact hm.sole (h.pool ▸ hpool)

/-- Without a pool nothing is idle, and it does not matter which handle is shared. -/
theorem ofNoPool (hpool : m.pool = none) (hlent : ∀ id ∈ out, m.isOpen id = true) : m.Stocked out where
  lent := hlent
  stacked id hid := by
    rw [Manager.idle, hpool] at hid
    cases hid
  sole h := by
    rw [hpool] at h
    cases h

/-- One more handle is out. -/
theorem lend (hm : m.Stocked out) (hid : m.isOpen id = true) : m.Stocked (id :: out) where
  lent := List.forall_mem_cons.mpr ⟨hid, hm.lent⟩
  stacked := hm.stacked
  sole := hm.sole

/-- The handle on top is taken out of the pool. -/
theorem take (hm : m.Stocked out) {pool rest : Pool HandleId} (hpool : m.pool = some pool)
    (hpop : pool.pop? = some (id, rest)) : Stocked { m with pool := some rest } out where
  lent := hm.lent
  stacked other hother := by
    have hidle : m.idle = id :: rest.items := by rw [Manager.idle, hpool, Option.elim_some, Pool.items_of_pop? hpop]
    have hother : other ∈ rest.items.dropLast := hother
    -- what is below the top of the rest is below the top of the whole stack
    refine hm.stacked other ?_
    rw [hidle]
    rcases hitems : rest.items with _ | ⟨next, items⟩
    · rw [hitems] at hother
      cases hother
    · rw [hitems] at hother
      exact List.mem_cons_of_mem id hother
  sole _ := hm.sole (by rw [hpool]; rfl)

/-- An open handle goes back into the pool. -/
theorem put (hm : m.Stocked out) {pool pool' : Pool HandleId} (hpool : m.pool = some pool) (hid : id ∈ out)
    (hpush : pool.push? id = some pool') : Stocked { m with pool := some pool' } (out.erase id) where
  lent other hother := hm.lent other (List.mem_of_mem_erase hother)
  stacked other hother := by
    have hidle : m.idle = pool.items := by rw [Manager.idle, hpool, Option.elim_some]
    have hother : other ∈ pool'.items.dropLast := hother
    -- below the new top is what was in the pool
    rw [Pool.items_of_push? hpush, ← hidle] at hother
    rcases hitems : m.idle with _ | ⟨next, items⟩
    · rw [hitems] at hother
      cases hother
    · rw [hitems, List.dropLast_cons_cons, ← hitems] at hother
      -- the old top, which may be open, was on loan only if it is the one handed in
      rcases List.mem_cons.mp hother with rfl | hother
      · exact hm.lent other hid
      · exact hm.stacked other hother
  sole _ := hm.sole (by rw [hpool]; rfl)

/-- The pool is emptied. -/
theorem emptied (hm : m.Stocked out) {pool : Pool HandleId} (hpool : m.pool = some pool) :
    Stocked { m with pool := some { pool with items := [] } } out where
  lent := hm.lent
  stacked _ hid := nomatch hid
  sole _ := hm.sole (by rw [hpool]; rfl)

end Stocked

end Manager

namespace Managed

open Manager

variable {m : Manager} {out : List HandleId} {id : HandleId}

/-! ## §3 Operations -/

/-- A handle that is given back is none of those that have to stay open. -/
theorem not_needed_of_mem_out (hm : m.InOrder out) (hid : id ∈ out) : ¬ (id ∈ m.idle ∨ id ∈ out.erase id) := by
  rintro (hidle | hrest)
  · exact hm.not_mem_out_of_idle hidle hid
  · exact (List.nodup_append.mp hm.distinct).2.1.not_mem_erase hrest

theorem close_stocked (hm : m.InOrder out) (hs : m.Stocked out) (hid : id ∈ out) :
    ((close id).perform m).2.Stocked (out.erase id) := by
  have hclose : (close id).Respects (Leaves fun other => other ∈ m.idle ∨ other ∈ out.erase id) := by
    rw [close_eq]
    exact .bind (closeConnection_leaves (not_needed_of_mem_out hm hid)) fun _ => unlockFor_leaves id
  exact hs.ofLeaves (hclose m) fun _ => List.mem_of_mem_erase

theorem drainPool_stocked (hm : m.InOrder out) (hs : m.Stocked out) : (drainPool.perform m).2.Stocked out := by
  rw [drainPool, Session.perform_bind_of_ok (Session.perform_get m)]
  rcases hpool : m.pool with _ | pool
  · exact hs
  · dsimp only
    rw [Session.perform_bind_of_ok (Session.perform_set m _)]
    -- what was idle is closed, and nothing of it is out
    have hclose : (pool.toList.forM closeConnection).Respects
        (Leaves fun id => id ∈ ([] : List HandleId) ∨ id ∈ out) := by
      refine forM_closeConnection_leaves fun id hid => ?_
      have hidle : id ∈ m.idle := by
        rw [Manager.idle, hpool]
        exact List.mem_reverse.mp hid
      rintro (hnone | hout)
      · cases hnone
      · exact hm.not_mem_out_of_idle hidle hout
    exact (hs.emptied hpool).ofLeaves (hclose _) fun _ h => h

theorem release_stocked (hm : m.InOrder out) (hs : m.Stocked out) (hid : id ∈ out) :
    ((release id).perform m).2.Stocked (out.erase id) := by
  have hclose : (closeConnection id).Respects (Leaves fun other => other ∈ m.idle ∨ other ∈ out.erase id) :=
    closeConnection_leaves (not_needed_of_mem_out hm hid)
  have hout : ∀ other ∈ out.erase id, other ∈ out := fun _ => List.mem_of_mem_erase
  rw [release, Session.perform_bind_of_ok (Session.perform_get m)]
  split
  · -- a handle goes into the pool, or is closed because it has no place there
    rcases hpush : (if m.isCurrent id then m.pool.bind (·.push? id) else none) with _ | pool'
    · exact hs.ofLeaves (hclose m) hout
    · split at hpush
      · obtain ⟨pool, hpool, hpush⟩ := Option.bind_eq_some_iff.mp hpush
        exact hs.put hpool hid hpush
      · cases hpush
  · -- a single handle is closed unless it is current, and its mutex is free
    split
    · exact hs.ofLeaves (Session.Respects.bind hclose (fun _ => unlock_leaves) m) hout
    · exact hs.ofLeaves (unlock_leaves m) hout

/-- Without a pool, the handle that is lent out next is not out yet. -/
theorem lockShared_spares (hm : m.InOrder out) (hfree : m.isLocked = false) (snapshot : Snapshot) :
    Spares (· ∈ out) m
      ((lock >>= fun _ => (sharedHandle snapshot).onFailure Failure.isOrdinary fun _ => unlock).perform m).2 := by
  have hshared : ∀ id, m.shared = some id → id ∉ out := by
    intro id hid hout
    -- the shared handle belongs to no pool, and all that are out belong to one
    obtain ⟨h, hhandle, hsingle⟩ := hm.kept id (.inl hid)
    have hpooled := hm.pooled_of_free hfree id hout
    rw [isPooled_of_handle hhandle, hsingle] at hpooled
    cases hpooled
  have hchosen := sharedHandle_spares (P := (· ∈ out)) (m := { m with isLocked := true }) hshared snapshot
  have hlock : Spares (· ∈ out) m { m with isLocked := true } := .ofHandles rfl rfl
  rw [Session.perform_bind_of_ok (perform_lock hfree), Session.perform_onFailure]
  rcases hrun : (sharedHandle snapshot).perform { m with isLocked := true } with ⟨e | id, m₁⟩
  all_goals
    rw [hrun] at hchosen
    have hspares := trans_of (Spares (· ∈ out)) hlock hchosen
  · dsimp only
    split
    · have hunlock := trans_of (Spares (· ∈ out)) hspares (unlock_leaves m₁).toSpares
      rcases hback : unlock.perform m₁ with ⟨e' | _, m₂⟩
      all_goals
        rw [hback] at hunlock
        exact hunlock
    · exact hspares
  · exact hspares

theorem takeHandle_stocked (hm : m.InOrder out) (hs : m.Stocked out) (hwaits : m.waits .acquire = false) :
    (takeHandle.perform m).2.Stocked out := by
  rw [takeHandle, Session.perform_bind_of_ok (Session.perform_get m)]
  rcases hpool : m.pool with _ | pool
  · have hfree : m.isLocked = false := by simpa [Manager.waits, hpool] using hwaits
    have hspares := lockShared_spares hm hfree m.active
    exact .ofNoPool (hspares.pool.trans hpool) fun id hid => hspares.opens id hid (hs.lent id hid)
  · rcases hpop : pool.pop? with _ | ⟨id, rest⟩
    · simp only [hpop]
      exact hs.ofLeaves (newHandle_leaves m.active true m) fun _ h => h
    · simp only [hpop]
      exact hs.take hpool hpop

theorem tryOpen_leaves (id : HandleId) {P : HandleId → Prop} :
    ((openHandle id).onFailure Failure.isOrdinary fun _ => unlockFor id).Respects (Leaves P) :=
  .onFailure (openHandle_leaves id) fun _ => unlockFor_leaves id

/-- A handle that has been opened is open. -/
theorem isOpen_of_openHandle_ok {m' : Manager} (h : (openHandle id).perform m = (.ok (), m')) :
    m'.isOpen id = true := by
  rcases hid : m.handle? id with _ | handle
  · -- no handle, no opening
    rw [perform_openHandle_of_none hid] at h
    cases h
  · rw [perform_openHandle hid] at h
    -- the opening that succeeds sets the connection
    rcases hrun : (Connection.establish m.connector m.tls handle.settings).perform m.world with ⟨e | c, w⟩
    · rw [hrun] at h
      cases h
    · rw [hrun] at h
      cases h
      change ((m.setConnection id (some c)).connection? id).isSome = true
      rw [connection?_setConnection, if_pos rfl, hid]
      rfl

theorem acquire_stocked (hm : m.InOrder out) (hs : m.Stocked out) (hwaits : m.waits .acquire = false) :
    (acquire.perform m).2.Stocked ((acquire.perform m).1.toOption.toList ++ out) := by
  have htaken := takeHandle_stocked hm hs hwaits
  rw [acquire_eq]
  rcases htake : takeHandle.perform m with ⟨e | id, m₁⟩
  all_goals rw [htake] at htaken
  · rw [Session.perform_bind_of_error htake]
    exact htaken
  rw [Session.perform_bind_of_ok htake, Session.perform_bind_of_ok (Session.perform_get m₁)]
  split
  · -- the handle is opened, and if that succeeds it is out and open
    have hopened := htaken.ofLeaves (tryOpen_leaves id m₁) fun _ h => h
    rw [Session.perform_bind]
    rcases hopen : ((openHandle id).onFailure Failure.isOrdinary fun _ => unlockFor id).perform m₁ with ⟨e | _, m₂⟩
    all_goals rw [hopen] at hopened
    · exact hopened
    · exact hopened.lend (isOpen_of_openHandle_ok (Session.of_perform_onFailure_ok hopen))
  · -- it was open already
    rename_i hopen
    have hopen : m₁.connection? id ≠ none := by simpa using hopen
    exact htaken.lend (Option.isSome_iff_ne_none.mpr hopen)

theorem start_stocked (hm : m.InOrder out) (hs : m.Stocked out) (hwaits : m.waits .acquire = false) :
    (start.perform m).2.Stocked out := by
  have hlends := acquire_lends hm hwaits
  have hstocked := acquire_stocked hm hs hwaits
  rw [perform_start]
  rcases hrun : acquire.perform m with ⟨e | id, m₁⟩
  all_goals rw [hrun] at hlends hstocked
  · -- nothing was lent: what is left is written down
    dsimp only
    split
    · exact hstocked.ofLeaves (onWorld_leaves _ m₁) fun _ h => h
    · exact hstocked
  · -- the handle that was lent is handed in at once
    have hback : ((release id).perform m₁).2.Stocked ((id :: out).erase id) :=
      release_stocked hlends.inOrder hstocked List.mem_cons_self
    rwa [List.erase_cons_head] at hback

/-- The handles that are kept belong to no pool, so that while the mutex is free none of them is out. -/
theorem not_needed_of_kept (hm : m.InOrder out) (hfree : m.isLocked = false)
    (hkept : m.shared = some id ∨ m.ready = some id) : ¬ (id ∈ m.idle ∨ id ∈ out) := by
  obtain ⟨h, hid, hsingle⟩ := hm.kept id hkept
  have hsingle : m.isPooled id = false := (isPooled_of_handle hid).trans hsingle
  intro hmem
  have hpooled : m.isPooled id = true :=
    hmem.elim (fun hidle => (hm.idle id hidle).isPooled) (hm.pooled_of_free hfree id)
  rw [hsingle] at hpooled
  cases hpooled

theorem closeShared_stocked (hm : m.InOrder out) (hlent : ∀ id ∈ out, m.isOpen id = true)
    (hstacked : ∀ id ∈ m.idle.dropLast, m.isOpen id = true) (hfree : m.isLocked = false) :
    (closeShared.perform m).2.Stocked out := by
  rw [perform_closeShared hfree]
  have hclose : ((m.shared.toList ++ m.ready.toList).forM closeConnection).Respects
      (Leaves fun id => id ∈ m.idle ∨ id ∈ out) := by
    refine forM_closeConnection_leaves fun id hid => not_needed_of_kept hm hfree ?_
    exact (List.mem_append.mp hid).imp Option.mem_toList.mp Option.mem_toList.mp
  have hforgotten : Stocked { m with shared := none, ready := none, isLocked := false } out :=
    ⟨hlent, hstacked, fun _ => rfl⟩
  exact hforgotten.ofLeaves (hclose _) fun _ h => h

theorem shutdown_stocked (hm : m.InOrder out) (hs : m.Stocked out) (hfree : m.isLocked = false) :
    (shutdown.perform m).2.Stocked out := by
  have horder := (closeShared_conserves hm hfree).inOrder
  have hstocked := closeShared_stocked hm hs.lent hs.stacked hfree
  rw [shutdown, Session.perform_bind]
  rcases hrun : closeShared.perform m with ⟨e | _, m₁⟩
  all_goals rw [hrun] at horder hstocked
  · exact hstocked
  · exact drainPool_stocked horder hstocked

/-- What was idle under the old settings is closed, and the shared handle if there is a pool from now on. An interrupt
in between finds no handle shared, since there was a pool before if there was something to close. -/
theorem retire_stocked {pool : Option (Pool HandleId)} {s : Settings} (hm : m.InOrder out)
    (hlent : ∀ id ∈ out, m.isOpen id = true) (hone : m.idle.dropLast = [])
    (hold : ∀ id ∈ pool.elim [] Pool.toList, id ∉ out) (hpooling : m.pool.isSome = true → s.poolingEnabled = true)
    (hsole : pool.isSome = true → m.shared = none)
    (hwaits : s.poolingEnabled = true → m.isLocked = true → ((retire pool s).perform m).1 ≠ .error .blocked) :
    ((retire pool s).perform m).2.Stocked out := by
  have hbooks := forM_closeConnection_sameBooks (pool.elim [] Pool.toList) m
  have hclosed := forM_closeConnection_leaves hold m
  rw [retire, Session.perform_bind]
  rcases hrun : ((pool.elim [] Pool.toList).forM closeConnection).perform m with ⟨e | _, m₁⟩
  all_goals
    rw [hrun] at hbooks hclosed
    -- closing what was pooled closes nothing that is out, and nothing that is idle
    have hlent₁ : ∀ id ∈ out, m₁.isOpen id = true := fun id hid => hclosed.opens id hid (hlent id hid)
    have hstacked₁ : ∀ id ∈ m₁.idle.dropLast, m₁.isOpen id = true := by
      rw [hclosed.idle, hone]
      exact List.forall_mem_nil _
  · rcases pool with _ | pool
    · cases hrun
    · exact ⟨hlent₁, hstacked₁, fun _ => hclosed.shared.trans (hsole rfl)⟩
  · dsimp only
    -- the pool takes over from the shared handle, or there is no pool any more
    split
    · rename_i hpooled
      have hfree := free_of_retire hpooled hrun fun hlocked => hwaits hpooled (hbooks.isLocked.symm.trans hlocked)
      have hshared := closeShared_stocked (hm.ofBooks hbooks) hlent₁ hstacked₁ hfree
      rw [Session.perform_bind]
      rcases hclose : closeShared.perform m₁ with ⟨e | _, m₂⟩
      all_goals rw [hclose] at hshared
      · exact hshared
      · exact hshared.ofLeaves (onWorld_leaves _ m₂) fun _ h => h
    · rename_i hsingle
      have hnone : m₁.pool = none := by
        rw [hclosed.pool]
        exact Option.not_isSome_iff_eq_none.mp fun hsome => hsingle (hpooling hsome)
      exact (Stocked.ofNoPool hnone hlent₁).ofLeaves (onWorld_leaves _ m₁) fun _ h => h

/-- Under new settings the pool is a new one. -/
theorem activate_stocked (hm : m.InOrder out) (hs : m.Stocked out) {snapshot : Snapshot}
    (chosen : Registry.Collaborators) {h : Handle} (hid : m.handle? id = some h) (hsnapshot : h.snapshot = snapshot)
    (hpooled : h.pooled = snapshot.settings.poolingEnabled) (hfresh : id ∉ out)
    (hwaits : snapshot.settings.poolingEnabled = true → m.isLocked = true →
      ((retire m.pool snapshot.settings).perform (activate snapshot chosen id m)).1 ≠ .error .blocked) :
    ((retire m.pool snapshot.settings).perform (activate snapshot chosen id m)).2.Stocked out := by
  refine retire_stocked (hm.ofActivate chosen hid hsnapshot hpooled hfresh) hs.lent ?_ ?_ ?_ hs.sole hwaits
  · rcases idle_activate m snapshot chosen id with hidle | ⟨-, hidle⟩
    · rw [hidle]
      rfl
    · rw [hidle]
      rfl
  · -- what was idle under the old settings is not out
    intro other hother
    refine hm.not_mem_out_of_idle ?_
    rw [Manager.idle]
    rcases hpool : m.pool with _ | pool
    all_goals rw [hpool] at hother
    · cases hother
    · exact List.mem_reverse.mp hother
  · intro hsome
    obtain ⟨pool, hpool⟩ := Option.isSome_iff_exists.mp hsome
    exact (pool_activate hpool).1

theorem reconfigure_stocked (hm : m.InOrder out) (hs : m.Stocked out) {snapshot : Snapshot}
    (hwaits : m.waits (.reconfigure snapshot.settings) = true →
      ((reconfigure snapshot).perform m).1 ≠ .error .blocked) :
    ((reconfigure snapshot).perform m).2.Stocked out := by
  rw [perform_reconfigure] at hwaits ⊢
  rcases hchosen : m.registry.collaborators snapshot.settings with e | chosen
  · exact hs
  simp only [hchosen] at hwaits ⊢
  -- the notes change the journal only
  rw [Session.perform_bind_of_ok (perform_forM_note chosen.notes m)] at hwaits ⊢
  generalize hnoted :
    ({ m with world := { m.world with journal := m.world.journal ++ chosen.notes } } : Manager) = m₁ at hwaits ⊢
  have hm₁ : m₁.InOrder out := hnoted ▸ hm.ofBooks rfl
  have hs₁ : m₁.Stocked out := hnoted ▸ ⟨hs.lent, hs.stacked, hs.sole⟩
  have hlock₁ : m₁.isLocked = m.isLocked := hnoted ▸ rfl
  rcases newHandle_makes snapshot snapshot.settings.poolingEnabled m₁ with
    ⟨h, hnew, hsnapshot, hpooled, hclosed⟩ | ⟨e, he, hnew⟩
  · rw [Session.perform_bind_of_ok hnew, Session.perform_bind_of_ok (Session.perform_get _),
      Session.perform_bind_of_ok (Session.perform_set _ _)] at hwaits ⊢
    have hid : Manager.handle? { m₁ with handles := m₁.handles ++ [h] } m₁.handles.length = some h :=
      List.getElem?_concat_length
    have hfresh : m₁.handles.length ∉ out := fun hmem => hm₁.length_not_mem (List.mem_append_right _ hmem)
    have hs₂ : Stocked { m₁ with handles := m₁.handles ++ [h] } out := by
      have hmade := newHandle_leaves (P := fun id => id ∈ m₁.idle ∨ id ∈ out) snapshot
        snapshot.settings.poolingEnabled m₁
      rw [hnew] at hmade
      exact hs₁.ofLeaves hmade fun _ h => h
    have hactivate := activate_stocked (hm₁.ofNewHandle hclosed) hs₂ chosen hid hsnapshot hpooled hfresh
      -- the mutex is waited for only where the hypothesis excludes it
      fun hpooling hlocked hblocked => by
        have hwaiting : m.waits (.reconfigure snapshot.settings) = true := by
          have hlocked : m₁.isLocked = true := hlocked
          rw [Manager.waits, hpooling, ← hlock₁, hlocked]
          rfl
        refine hwaits hwaiting ?_
        rw [Session.perform_bind, ← Prod.eta ((retire _ _).perform _), hblocked]
    rw [Session.perform_bind]
    generalize (retire _ _).perform _ = run at hactivate ⊢
    rcases run with ⟨e | _, m₃⟩ <;> exact hactivate
  · rw [Session.perform_bind_of_error hnew]
    exact hs₁

end Managed

namespace Desk

open Manager Managed

variable {d : Desk} {move : Move} {moves : List Move}

/-! ## §4 Runs -/

/-- **Every proper move** leaves those handles open that have to be, interrupted or not. -/
theorem step_stocked (hd : d.manager.InOrder d.out) (hs : d.manager.Stocked d.out) (hmove : d.Proper move) :
    (d.step move).manager.Stocked (d.step move).out := by
  cases move with
  | acquire =>
    rw [step_acquire]
    exact acquire_stocked hd hs hmove
  | release id =>
    rw [step_of_program (x := Managed.release id) rfl]
    exact release_stocked hd hs hmove
  | close id =>
    rw [step_of_program (x := Managed.close id) rfl]
    exact close_stocked hd hs hmove
  | abandon id =>
    rw [step_of_program (x := Managed.close id >>= fun _ => Managed.drainPool) rfl]
    have horder := (close_givesBack hd hmove).inOrder
    have hstocked := close_stocked hd hs hmove
    -- the handle is closed, and with it every idle one
    rw [Session.perform_bind]
    rcases hrun : (Managed.close id).perform d.manager with ⟨e | _, m₁⟩
    all_goals rw [hrun] at horder hstocked
    · exact hstocked
    · exact drainPool_stocked horder hstocked
  | drainPool =>
    rw [step_of_program (x := Managed.drainPool) rfl]
    exact drainPool_stocked hd hs
  | start =>
    rw [step_of_program (x := Managed.start) rfl]
    exact start_stocked hd hs hmove
  | shutdown =>
    rw [step_of_program (x := Managed.shutdown) rfl]
    exact shutdown_stocked hd hs hmove
  | reconfigure snapshot =>
    rw [step_of_program (x := Managed.reconfigure snapshot) rfl]
    refine reconfigure_stocked hd hs fun hwaits hblocked => hmove hwaits ?_
    rw [result_of_program (x := Managed.reconfigure snapshot) rfl, hblocked]
    rfl
  | use id x =>
    rw [step_of_program (x := onHandle id x) rfl]
    exact hs.ofLeaves (onHandle_leaves id x d.manager) fun _ h => h
  | write message => exact hs.ofLeaves (onWorld_leaves (modify (·.write message)) d.manager) fun _ h => h
  | outside directory faults =>
    exact hs.ofLeaves
      (onWorld_leaves (modify fun w => { w with directory := directory, faults := faults }) d.manager) fun _ h => h

/-- **Handles that have to be open are open** after every proper run. -/
theorem run_stocked {registry : Registry} {snapshot : Snapshot} {w : World} {m : Manager}
    (hcreate : ((Manager.create registry snapshot).perform w).1 = .ok m) (hmoves : (Desk.mk m []).All Proper moves) :
    ((Desk.mk m []).run moves).manager.Stocked ((Desk.mk m []).run moves).out := by
  -- a manager that was just made has an empty pool and nothing shared
  have hcreated : m.Stocked [] := by
    obtain ⟨-, hshared, -, -, -, hpool, -, -⟩ := created hcreate
    refine ⟨List.forall_mem_nil _, fun id hid => ?_, fun _ => hshared⟩
    have hidle : m.idle = [] := by
      rw [Manager.idle, hpool]
      rcases hitems : poolFor snapshot.settings with _ | pool
      · rfl
      · exact Manager.items_of_poolFor hitems
    rw [hidle] at hid
    cases hid
  -- the stock is kept together with the order of the desk, on which it rests
  have hboth : ∀ d : Desk, ∀ move, d.Proper move → (d.manager.InOrder d.out ∧ d.manager.Stocked d.out) →
      ((d.step move).manager.InOrder (d.step move).out ∧ (d.step move).manager.Stocked (d.step move).out) :=
    fun _ _ hmove hd => ⟨step_inOrder hd.1 hmove, step_stocked hd.1 hd.2 hmove⟩
  exact (run_induction hboth ⟨(balanced_of_create hcreate).inOrder, hcreated⟩ hmoves).2

end Desk

end DirectoryLogin

import DirectoryLogin.Proofs.Manager.Invariants
/-!
# The Integrity of the Pool

Whatever is done at the desk, in whatever order, and whatever is interrupted: the pool never holds more handles than
the active settings allow, no handle twice, none that somebody has, and none of another snapshot than the active one. A
handle that has been overtaken by new settings while it was out does not get into the pool again, unless its own
snapshot is made active once more.

- `Desk.of_mem_idle`: what is known of an idle handle.
- `pool_integrity`: all of this, for every proper run from a new manager.
-/

namespace DirectoryLogin

open Manager

namespace Desk

variable {d : Desk} {id : HandleId}

/-- An idle handle is not out, and was made for the active snapshot. -/
theorem of_mem_idle (hd : d.manager.InOrder d.out) (hid : id ∈ d.manager.idle) :
    id ∉ d.out ∧ ∃ h, d.manager.handle? id = some h ∧ h.snapshot = d.manager.active := by
  refine ⟨hd.not_mem_out_of_idle hid, ?_⟩
  obtain ⟨h, hid, hsnapshot, -⟩ := hd.idle id hid
  exact ⟨h, hid, hsnapshot⟩

/-- A handle keeps its snapshot, so it becomes idle only under that snapshot. -/
theorem reactivated_of_mem_idle {moves : List Move} (hd : (d.run moves).manager.InOrder (d.run moves).out)
    {h : Handle} (hid : d.manager.handle? id = some h) (holder : h.snapshot ≠ d.manager.active)
    (hidle : id ∈ (d.run moves).manager.idle) :
    ∃ before after, moves = before ++ .reconfigure h.snapshot :: after ∧
      (d.run (before ++ [.reconfigure h.snapshot])).manager.active = h.snapshot := by
  obtain ⟨-, h', hid', hactive⟩ := of_mem_idle hd hidle
  obtain ⟨h'', hid'', hsnapshot, -⟩ := run_retains d moves id h hid
  rw [hid', Option.some.injEq] at hid''
  subst hid''
  rw [hsnapshot] at hactive
  -- the snapshot is active now and was not then, so that it has been made active in between
  rw [hactive]
  rcases active_run d moves with hsame | hmade
  · rw [hactive] at holder
    exact absurd hsame holder
  · exact hmade

end Desk

/-- **The integrity of the pool.** After any run from a new manager in which every handle is used and given back only
by who has it, and nobody waits for the mutex, the pool holds at most as many handles as the active settings say, all
different, none of them out, and all made for the active snapshot. And if a handle is out then that was made for
another snapshot, it is in the pool after more of the run only if that very snapshot has been made active in it. -/
theorem pool_integrity {registry : Registry} {snapshot : Snapshot} {w : World} {m : Manager}
    (hcreate : ((Manager.create registry snapshot).perform w).1 = .ok m) {moves : List Move}
    (hmoves : (Desk.mk m []).All Desk.Proper moves) :
    (∀ pool, ((Desk.mk m []).run moves).manager.pool = some pool →
      (pool.items.length : Int) ≤ ((Desk.mk m []).run moves).manager.active.settings.connectionPoolSize ∧
      pool.items.Nodup ∧
      ∀ id ∈ pool.items, id ∉ ((Desk.mk m []).run moves).out ∧
        ∃ h, ((Desk.mk m []).run moves).manager.handle? id = some h ∧
          h.snapshot = ((Desk.mk m []).run moves).manager.active) ∧
    (∀ later, ((Desk.mk m []).run moves).All Desk.Proper later →
      ∀ id ∈ ((Desk.mk m []).run moves).out, ∀ h, ((Desk.mk m []).run moves).manager.handle? id = some h →
        h.snapshot ≠ ((Desk.mk m []).run moves).manager.active →
        id ∈ (((Desk.mk m []).run moves).run later).manager.idle →
        ∃ before after, later = before ++ .reconfigure h.snapshot :: after ∧
          (((Desk.mk m []).run moves).run (before ++ [.reconfigure h.snapshot])).manager.active = h.snapshot) := by
  have hd := Desk.run_inOrder hcreate hmoves
  generalize (Desk.mk m []).run moves = d at hd ⊢
  constructor
  · intro pool hpool
    have hidle : d.manager.idle = pool.items := by rw [Manager.idle, hpool, Option.elim_some]
    obtain ⟨hcapacity, hsize⟩ := hd.room pool hpool
    refine ⟨?_, ?_, fun id hid => Desk.of_mem_idle hd (hidle ▸ hid)⟩
    · rw [← hcapacity]
      exact Int.ofNat_le.mpr hsize
    · rw [← hidle]
      exact (List.nodup_append.mp hd.distinct).1
  · intro later hlater id _ h hid holder hidle
    -- whatever the rest of the run does, it keeps the books in order
    have hd' : (d.run later).manager.InOrder (d.run later).out :=
      Desk.run_induction (I := fun d => d.manager.InOrder d.out) (fun _ _ hmove hd => Desk.step_inOrder hd hmove) hd
        hlater
    exact Desk.reactivated_of_mem_idle hd' hid holder hidle

/-! ### A run -/

/-- Settings with a pool of two. -/
def Settings.withPool : Settings where
  connectionUrl := some "ldap://directory"
  connectionPoolSize := 2

/-- Two handles are out when the settings change. -/
def Move.overtaken : List Move :=
  [.acquire, .acquire, .reconfigure ⟨1, .withPool⟩]

/-- The first settings come back before one of the two handles does. -/
def Move.restored : List Move :=
  [.reconfigure ⟨0, .withPool⟩, .release 0]

/-- The handle is back in the pool, and so are its settings. -/
theorem overtaken_handle_restored :
    ∃ m, ((Manager.create {} ⟨0, .withPool⟩).perform {}).1 = .ok m ∧
      (Desk.mk m []).All Desk.Proper (Move.overtaken ++ Move.restored) ∧
      ((Desk.mk m []).run Move.overtaken).out = [1, 0] ∧
      (((Desk.mk m []).run Move.overtaken).run Move.restored).manager.idle = [0, 3] ∧
      (∃ before after, Move.restored = before ++ .reconfigure ⟨0, .withPool⟩ :: after) := by
  have hrun : (((Manager.create {} ⟨0, .withPool⟩).perform {}).1.toOption.any fun m =>
      let d := (Desk.mk m []).run Move.overtaken
      decide ((Desk.mk m []).All Desk.Proper (Move.overtaken ++ Move.restored)) && decide (d.out = [1, 0]) &&
        decide ((d.run Move.restored).manager.idle = [0, 3]) &&
        decide ((d.manager.handle? 0).map (·.snapshot) = some ⟨0, .withPool⟩) &&
        decide (d.manager.active = ⟨1, .withPool⟩)) = true := by decide +kernel
  obtain ⟨m, hcreate, hrun⟩ := exists_ok_of_any hrun
  simp only [Bool.and_eq_true, decide_eq_true_eq] at hrun
  obtain ⟨⟨⟨⟨hmoves, hout⟩, hidle⟩, hsnapshot⟩, hactive⟩ := hrun
  obtain ⟨h, hid, hsnapshot⟩ := Option.map_eq_some_iff.mp hsnapshot
  obtain ⟨hbefore, hlater⟩ := Desk.all_append_iff.mp hmoves
  refine ⟨m, hcreate, hmoves, hout, hidle, ?_⟩
  -- the handle that is idle in the end was out when it belonged to other settings
  have holder : h.snapshot ≠ ((Desk.mk m []).run Move.overtaken).manager.active := by
    rw [hsnapshot, hactive]
    decide
  obtain ⟨before, after, hsplit, -⟩ := (pool_integrity hcreate hbefore).2 Move.restored hlater 0
    (hout ▸ List.mem_cons_of_mem 1 List.mem_cons_self) h hid holder (hidle ▸ List.mem_cons_self)
  exact ⟨before, after, hsnapshot ▸ hsplit⟩

end DirectoryLogin

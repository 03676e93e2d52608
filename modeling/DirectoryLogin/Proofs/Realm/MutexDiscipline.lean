import DirectoryLogin.Proofs.Manager.PoolIntegrity
import DirectoryLogin.Proofs.Realm.CallMoves
/-!
# The Discipline of the Mutex

The mutex is held exactly while one handle is out that belongs to no pool. Whoever is refused a handle does not keep
it, a call of the realm leaves it as it was, and nobody gives it back twice. Only an interrupt while a connection is
being opened or ended could break this, since nothing cleans up after those.

- `Desk.singles`: the handles for which the mutex is held.
- `mutex_discipline`: all of this, for every undisturbed run from a new manager.
-/

namespace DirectoryLogin

open Manager

namespace Desk

variable {d : Desk} {move : Move} {moves : List Move}

/-- The handles that are out and belong to no pool. -/
def singles (d : Desk) : List HandleId :=
  d.out.filter fun id => !d.manager.isPooled id

theorem mem_singles {id : HandleId} : id ∈ d.singles ↔ id ∈ d.out ∧ d.manager.isPooled id = false := by
  rw [singles, List.mem_filter, Bool.not_eq_true']

/-- All of them are the shared handle, and none is out twice. -/
theorem length_singles_le (hd : d.manager.InOrder d.out) : d.singles.length ≤ 1 := by
  have hnodup : d.singles.Nodup := (List.nodup_append.mp hd.distinct).2.1.filter _
  -- each of them is the shared handle, so that two would be the same
  have hshared {id : HandleId} (hid : id ∈ d.singles) : d.manager.shared = some id := by
    obtain ⟨hout, hsingle⟩ := mem_singles.mp hid
    exact (hd.single id hout hsingle).2
  rcases hsingles : d.singles with _ | ⟨id, _ | ⟨other, rest⟩⟩
  · exact Nat.zero_le 1
  · exact Nat.le_refl 1
  · rw [hsingles] at hnodup hshared
    have hsame := (hshared List.mem_cons_self).symm.trans (hshared (List.mem_cons_of_mem id List.mem_cons_self))
    cases hsame
    exact absurd List.mem_cons_self (List.nodup_cons.mp hnodup).1

/-- The mutex is held while there is one of them, and there is never another. -/
theorem Balanced.length_singles (hd : d.Balanced) : d.singles.length = d.manager.isLocked.toNat := by
  have hone := length_singles_le hd.inOrder
  rcases hlocked : d.manager.isLocked with _ | _
  · -- nobody holds the mutex, so there is none
    rcases hsingles : d.singles with _ | ⟨id, rest⟩
    · rfl
    · have hid : id ∈ d.singles := hsingles ▸ List.mem_cons_self
      have hheld := hd.isLocked_iff.mpr ⟨id, mem_singles.mp hid⟩
      rw [hlocked] at hheld
      cases hheld
  · obtain ⟨id, hid, hsingle⟩ := hd.guarded hlocked
    have hpos := List.length_pos_of_mem (mem_singles.mpr ⟨hid, hsingle⟩)
    exact Nat.le_antisymm hone hpos

/-- With the same handles out as before, the mutex is as before. -/
theorem Balanced.isLocked_run (hd : d.Balanced) (hmoves : d.All Undisturbed moves) (hout : (d.run moves).out = d.out) :
    (d.run moves).manager.isLocked = d.manager.isLocked := by
  have hafter : (d.run moves).Balanced := run_induction (fun _ _ hmove hd => hd.step hmove) hd hmoves
  rw [Bool.eq_iff_iff, hafter.isLocked_iff, hd.isLocked_iff, hout]
  -- the handles that are out have not changed, and each belongs to a pool if it did
  have hpooled (id : HandleId) (hid : id ∈ d.out) :
      (d.run moves).manager.isPooled id = d.manager.isPooled id :=
    (run_retains d moves).isPooled (hd.inOrder.known id hid)
  constructor
  · rintro ⟨id, hid, hsingle⟩
    exact ⟨id, hid, (hpooled id hid).symm.trans hsingle⟩
  · rintro ⟨id, hid, hsingle⟩
    exact ⟨id, hid, (hpooled id hid).trans hsingle⟩

/-- A handle that could not be had is not out. -/
theorem out_step_acquire {e : Failure} (hfailed : d.result .acquire = .error e) : (d.step .acquire).out = d.out := by
  rw [step, hfailed]
  rfl

theorem out_step_start (d : Desk) : (d.step .start).out = d.out := by
  rw [step_of_program (x := Managed.start) rfl]
  rfl

end Desk

/-- **The discipline of the mutex.** After any run from a new manager in which every handle is used and given back only
by who has it, nobody waits for the mutex, and nothing but the bodies of blocks is interrupted,

- as many handles are out that belong to no pool as the mutex is held: one or none;
- whatever is done next, it does not give the mutex back twice, not even when it is interrupted;
- if no handle can be had, or if the manager is started, the mutex is afterwards as it was;
- and so it is after any call of the realm. -/
theorem mutex_discipline {registry : Registry} {snapshot : Snapshot} {w : World} {m : Manager}
    (hcreate : ((Manager.create registry snapshot).perform w).1 = .ok m) {moves : List Move}
    (hmoves : (Desk.mk m []).All Desk.Undisturbed moves) :
    ((Desk.mk m []).run moves).singles.length = ((Desk.mk m []).run moves).manager.isLocked.toNat ∧
    (∀ move, ((Desk.mk m []).run moves).Proper move → ¬ move.IsUse →
      ((Desk.mk m []).run moves).result move ≠ .error .unlockedTwice) ∧
    (∀ e, ((Desk.mk m []).run moves).Undisturbed .acquire → ((Desk.mk m []).run moves).result .acquire = .error e →
      (((Desk.mk m []).run moves).step .acquire).manager.isLocked = ((Desk.mk m []).run moves).manager.isLocked) ∧
    (((Desk.mk m []).run moves).Undisturbed .start →
      (((Desk.mk m []).run moves).step .start).manager.isLocked = ((Desk.mk m []).run moves).manager.isLocked) ∧
    (∀ (r : Realm) (activity : Activity), r.manager = ((Desk.mk m []).run moves).manager → activity.IsCall →
      ((Desk.mk m []).run moves).All Desk.Undisturbed (r.moves ((Desk.mk m []).run moves).out activity) →
      (Scene.step { realm := r } activity).realm.manager.isLocked = r.manager.isLocked) := by
  have hd := Desk.run_balanced hcreate hmoves
  generalize (Desk.mk m []).run moves = d at hd ⊢
  refine ⟨hd.length_singles, fun move => Desk.result_ne_unlockedTwice hd.inOrder, ?_, ?_, ?_⟩
  · -- a failed acquisition hands nothing out, and neither does starting
    intro e hacquire hfailed
    have honly : d.All Desk.Undisturbed [.acquire] := ⟨hacquire, trivial⟩
    exact hd.isLocked_run honly (Desk.out_step_acquire hfailed)
  · intro hstart
    have honly : d.All Desk.Undisturbed [.start] := ⟨hstart, trivial⟩
    exact hd.isLocked_run honly (Desk.out_step_start d)
  · -- a call of a realm is a row of moves, after which nothing more is out
    rintro r activity hmanager hcall hundisturbed
    have hdesk : r.desk d.out = d := by rw [Realm.desk, hmanager]
    have hrun := Realm.run_moves r d.out hcall
    rw [hdesk] at hrun
    have hlock := hd.isLocked_run hundisturbed (by rw [hrun]; rfl)
    rw [hrun, ← hmanager] at hlock
    exact hlock

/-! ### A run -/

/-- A handle of a pool is out when the pool is given up. Then the body of a block is interrupted, and from then on the
directory cannot be reached. -/
def Move.disrupted : List Move :=
  [.acquire, .reconfigure ⟨1, { connectionUrl := some "ldap://directory", userPattern := some "uid={0}" }⟩, .acquire,
    .use 1 fun _ => throw (.interrupt ""), .abandon 1, .outside { down := ["directory"] } []]

/-- Nobody can have a handle now, and yet the mutex stays free. -/
theorem mutex_free_after_failures :
    ∃ m, ((Manager.create {} ⟨0, .withPool⟩).perform {}).1 = .ok m ∧
      ((Desk.mk m []).run Move.disrupted).out = [0] ∧ ((Desk.mk m []).run Move.disrupted).singles = [] ∧
      (∃ e, ((Desk.mk m []).run Move.disrupted).result .acquire = .error e) ∧
      (((Desk.mk m []).run Move.disrupted).step .acquire).manager.isLocked = false ∧
      (((Desk.mk m []).run Move.disrupted).step .start).manager.isLocked = false ∧
      (Scene.step { realm := ⟨none, .plain, ((Desk.mk m []).run Move.disrupted).manager⟩ }
        (.authenticate (some "ada") (some "pearl"))).realm.manager.isLocked = false := by
  have hrun : (((Manager.create {} ⟨0, .withPool⟩).perform {}).1.toOption.any fun m =>
      let d := (Desk.mk m []).run Move.disrupted
      let r : Realm := ⟨none, .plain, d.manager⟩
      decide ((Desk.mk m []).All Desk.Undisturbed Move.disrupted) && decide (d.out = [0]) &&
        decide (d.Undisturbed .acquire) && decide (d.Undisturbed .start) &&
        decide (d.All Desk.Undisturbed (r.moves d.out (.authenticate (some "ada") (some "pearl")))) &&
        (d.result .acquire).toOption.isNone && !d.manager.isLocked) = true := by decide +kernel
  obtain ⟨m, hcreate, hrun⟩ := exists_ok_of_any hrun
  simp only [Bool.and_eq_true, Bool.not_eq_true'] at hrun
  obtain ⟨⟨⟨⟨⟨⟨hmoves, hout⟩, hacquire⟩, hstart⟩, hcall⟩, hnone⟩, hfree⟩ := hrun
  refine ⟨m, hcreate, of_decide_eq_true hout, ?_⟩
  obtain ⟨hsingles, -, hfailed, hstarted, hcalled⟩ := mutex_discipline hcreate (of_decide_eq_true hmoves)
  -- from here on it does not matter how the desk has come about
  generalize (Desk.mk m []).run Move.disrupted = d at *
  rw [hfree] at hsingles hfailed hstarted
  rcases hresult : d.result .acquire with e | id?
  · have hlogin := hcalled ⟨none, .plain, d.manager⟩ (.authenticate (some "ada") (some "pearl")) rfl trivial
      (of_decide_eq_true hcall)
    exact ⟨List.length_eq_zero_iff.mp hsingles, ⟨e, rfl⟩, hfailed e (of_decide_eq_true hacquire) hresult,
      hstarted (of_decide_eq_true hstart), hlogin.trans hfree⟩
  · rw [hresult] at hnone
    cases hnone

end DirectoryLogin

import DirectoryLogin.Proofs.Manager.Operations
/-!
# What Holds at Every Desk

Every proper move keeps the books in order, interrupted or not. If nothing but the bodies of blocks is interrupted, the
books balance as well: the mutex is held for a handle that is out, and every open handle is held by somebody.

- `Desk.effect`: what a proper move comes to.
- `Desk.run_inOrder`, `Desk.run_balanced`: both, after any run from a new manager.
-/

namespace DirectoryLogin

open Manager Managed

namespace Desk

variable {d : Desk} {move : Move} {moves : List Move}

/-! ## §1 What a proper move comes to -/

/-- What a move does to the books: a handle is lent out, or one is given back, or neither. -/
inductive Effect (d : Desk) : Move → Prop
  | lends (h : Lends d.manager d.out (acquire.perform d.manager)) : Effect d .acquire
  | givesBack {move : Move} {id : HandleId} {run : Except Failure Unit × Manager}
    (hstep : d.step move = ⟨run.2, d.out.erase id⟩) (hresult : d.result move = run.1.map fun _ => none)
    (hother : ¬ move.IsUse) (h : GivesBack d.manager d.out id run) : Effect d move
  | conserves {α : Type} {move : Move} {run : Except Failure α × Manager} (hstep : d.step move = ⟨run.2, d.out⟩)
    (hresult : d.result move = run.1.map fun _ => none) (hother : ¬ move.IsUse)
    (h : Conserves d.manager d.out [] run) : Effect d move
  | uses {id : HandleId} {x : Handle → Exchange Unit} {m : Manager} (hstep : d.step (.use id x) = ⟨m, d.out⟩)
    (hm : m.InOrder d.out) (hlock : m.isLocked = d.manager.isLocked)
    (hheld : d.manager.Held d.out [] → m.Held d.out []) : Effect d (.use id x)

theorem result_of_program {α : Type} {x : Managed α} (hprogram : move.program = (fun _ => none) <$> x) :
    d.result move = (x.perform d.manager).1.map fun _ => none := by
  rw [result, hprogram, Session.perform_map]

theorem step_of_program {α : Type} {x : Managed α} (hprogram : move.program = (fun _ => none) <$> x) :
    d.step move = ⟨(x.perform d.manager).2, move.returned.elim d.out d.out.erase⟩ := by
  have hnone : (d.result move).toOption.join = none := by
    rw [result_of_program hprogram]
    rcases (x.perform d.manager).1 with _ | _ <;> rfl
  rw [step, hnone, hprogram, Session.perform_map]
  rfl

theorem step_acquire (d : Desk) :
    d.step .acquire =
      ⟨(acquire.perform d.manager).2, (acquire.perform d.manager).1.toOption.toList ++ d.out⟩ := by
  rw [step, result, Move.program, Session.perform_map]
  rcases (acquire.perform d.manager).1 with _ | _ <;> rfl

theorem result_acquire (d : Desk) : d.result .acquire = (acquire.perform d.manager).1.map some := by
  rw [result, Move.program, Session.perform_map]

/-- **Every proper move** has one of these effects while the books are in order. -/
theorem effect (hd : d.manager.InOrder d.out) (hmove : d.Proper move) : d.Effect move := by
  cases move with
  | acquire => exact .lends (acquire_lends hd hmove)
  | release id => exact .givesBack (step_of_program rfl) (result_of_program rfl) not_false (release_givesBack hd hmove)
  | close id => exact .givesBack (step_of_program rfl) (result_of_program rfl) not_false (close_givesBack hd hmove)
  | abandon id => exact .givesBack (step_of_program rfl) (result_of_program rfl) not_false (abandon_givesBack hd hmove)
  | drainPool => exact .conserves (step_of_program rfl) (result_of_program rfl) not_false (drainPool_conserves hd)
  | start => exact .conserves (step_of_program rfl) (result_of_program rfl) not_false (start_conserves hd hmove)
  | shutdown => exact .conserves (step_of_program rfl) (result_of_program rfl) not_false (shutdown_conserves hd hmove)
  | reconfigure snapshot =>
    -- choosing new settings waits for the mutex only where that was ruled out
    have hwaits : d.manager.waits (.reconfigure snapshot.settings) = true →
        ((reconfigure snapshot).perform d.manager).1 ≠ .error .blocked := by
      refine fun hwaits hblocked => hmove hwaits ?_
      rw [result_of_program rfl, hblocked]
      rfl
    exact .conserves (step_of_program rfl) (result_of_program rfl) not_false (reconfigure_conserves hd hwaits)
  | use id x =>
    obtain ⟨hm, hlock, hheld⟩ := onHandle_conserves hd hmove x
    exact .uses (step_of_program rfl) hm hlock hheld
  | write message => exact .conserves (step_of_program rfl) (result_of_program rfl) not_false (.ofWorld hd () _)
  | outside directory faults =>
    exact .conserves (step_of_program rfl) (result_of_program rfl) not_false (.ofWorld hd () _)

theorem step_inOrder (hd : d.manager.InOrder d.out) (hmove : d.Proper move) :
    (d.step move).manager.InOrder (d.step move).out := by
  cases effect hd hmove with
  | lends h =>
    rw [step_acquire]
    exact h.inOrder
  | givesBack hstep _ _ h => exact hstep ▸ h.inOrder
  | conserves hstep _ _ h => exact hstep ▸ h.inOrder
  | uses hstep hm => exact hstep ▸ hm

/-! ## §2 Desks at which the books balance -/

/-- The mutex is held only for a handle that is out, and every open handle is out, idle or shared. -/
structure Balanced (d : Desk) : Prop where
  inOrder : d.manager.InOrder d.out
  guarded : d.manager.isLocked = true → ∃ id ∈ d.out, d.manager.isPooled id = false
  held : d.manager.Held d.out []

/-- **The mutex** is held exactly while a handle is out that belongs to no pool. -/
theorem Balanced.isLocked_iff (hd : d.Balanced) :
    d.manager.isLocked = true ↔ ∃ id ∈ d.out, d.manager.isPooled id = false :=
  ⟨hd.guarded, fun ⟨id, hid, hsingle⟩ => (hd.inOrder.single id hid hsingle).1⟩

/-- Nothing is lent out or given back. -/
theorem Balanced.ofSame (hd : d.Balanced) {m : Manager} (hretains : Retains d.manager m) (hm : m.InOrder d.out)
    (hlock : m.isLocked = d.manager.isLocked) (hheld : d.manager.Held d.out [] → m.Held d.out []) :
    Balanced ⟨m, d.out⟩ := by
  refine ⟨hm, fun hlocked => ?_, hheld hd.held⟩
  obtain ⟨id, hid, hsingle⟩ := hd.guarded (hlock.symm.trans hlocked)
  exact ⟨id, hid, (hretains.isPooled (hd.inOrder.known id hid)).trans hsingle⟩

theorem Balanced.ofLends (hd : d.Balanced) {run : Except Failure HandleId × Manager}
    (hretains : Retains d.manager run.2) (h : Lends d.manager d.out run) (hordinary : FailsOrdinarily run.1) :
    Balanced ⟨run.2, run.1.toOption.toList ++ d.out⟩ := by
  cases h with
  | lent m' id hm' hlock hheld =>
    refine ⟨hm', fun hlocked => ?_, hheld hd.held⟩
    change m'.isLocked = true at hlocked
    rcases hpooled : m'.isPooled id with _ | _
    · exact ⟨id, List.mem_cons_self, hpooled⟩
    · -- a handle of a pool is lent out without the mutex, so that it was held before
      rw [hlocked, hpooled] at hlock
      obtain ⟨other, hother, hsingle⟩ := hd.guarded hlock.symm
      exact ⟨other, List.mem_cons_of_mem id hother,
        (hretains.isPooled (hd.inOrder.known other hother)).trans hsingle⟩
  | failed m' e hm' hfailed =>
    obtain ⟨-, hlock, hheld⟩ := hfailed (hordinary e rfl)
    exact hd.ofSame hretains hm' hlock hheld

theorem Balanced.ofGivesBack (hd : d.Balanced) {id : HandleId} {run : Except Failure Unit × Manager}
    (hretains : Retains d.manager run.2) (h : GivesBack d.manager d.out id run) (hordinary : FailsOrdinarily run.1) :
    Balanced ⟨run.2, d.out.erase id⟩ := by
  obtain ⟨-, hlock, hheld⟩ := h.ordinary hordinary
  refine ⟨h.inOrder, fun hlocked => ?_, hheld hd.held⟩
  rw [hlocked] at hlock
  obtain ⟨hlocked, hpooled⟩ := Bool.and_eq_true_iff.mp hlock.symm
  obtain ⟨other, hother, hsingle⟩ := hd.guarded hlocked
  -- if the mutex is held still, it is for another handle than this one
  have hne : other ≠ id := by
    rintro rfl
    rw [hpooled] at hsingle
    cases hsingle
  exact ⟨other, (List.mem_erase_of_ne hne).mpr hother,
    (hretains.isPooled (hd.inOrder.known other hother)).trans hsingle⟩

theorem failsOrdinarily_of_map {α β : Type} {x : Except Failure α} {f : α → β} (h : FailsOrdinarily (x.map f)) :
    FailsOrdinarily x := by
  rintro e rfl
  exact h e rfl

/-- **Undisturbed moves keep the balance.** -/
theorem Balanced.step (hd : d.Balanced) (hmove : d.Undisturbed move) : (d.step move).Balanced := by
  have hretains := step_retains d move
  obtain ⟨hproper, hordinary⟩ := hmove
  -- one case for each effect, not for each move
  cases effect hd.inOrder hproper with
  | lends h =>
    rw [step_acquire] at hretains ⊢
    rw [result_acquire] at hordinary
    exact hd.ofLends hretains h (failsOrdinarily_of_map (hordinary id))
  | givesBack hstep hresult hother h =>
    rw [hstep] at hretains ⊢
    rw [hresult] at hordinary
    exact hd.ofGivesBack hretains h (failsOrdinarily_of_map (hordinary hother))
  | conserves hstep hresult hother h =>
    rw [hstep] at hretains ⊢
    rw [hresult] at hordinary
    obtain ⟨-, hlock, hheld⟩ := h.ordinary (failsOrdinarily_of_map (hordinary hother))
    exact hd.ofSame hretains h.inOrder hlock hheld
  | uses hstep hm hlock hheld =>
    rw [hstep] at hretains ⊢
    exact hd.ofSame hretains hm hlock hheld

/-- **No operation gives the mutex back twice**, not even when it is interrupted. -/
theorem result_ne_unlockedTwice (hd : d.manager.InOrder d.out) (hmove : d.Proper move) (hother : ¬ move.IsUse) :
    d.result move ≠ .error .unlockedTwice := by
  -- a failure of the move is one of the operation that it runs
  have herror {α β : Type} {x : Except Failure α} {f : α → β} {e : Failure} (h : x.map f = .error e) :
      x = .error e := by
    rcases x with e' | a
    · cases h
      rfl
    · cases h
  have hordinary {α : Type} : FailsOrdinarily (.error .unlockedTwice : Except Failure α) := .error rfl
  intro htwice
  -- an ordinary failure comes with a guarantee that it is another one
  cases effect hd hmove with
  | lends h =>
    rw [result_acquire] at htwice
    have htwice := herror htwice
    generalize acquire.perform d.manager = run at h htwice
    cases h with
    | lent => cases htwice
    | failed m' e _ hfailed =>
      cases htwice
      exact (hfailed rfl).1 rfl
  | givesBack _ hresult _ h =>
    rw [hresult] at htwice
    have htwice := herror htwice
    have hvalue := (h.ordinary (htwice ▸ hordinary)).1
    rw [htwice] at hvalue
    cases hvalue
  | conserves _ hresult _ h =>
    rw [hresult] at htwice
    have htwice := herror htwice
    exact (h.ordinary (htwice ▸ hordinary)).1 htwice
  | uses => exact hother trivial

/-! ## §3 Runs from a new manager -/

section Run

variable {registry : Registry} {snapshot : Snapshot} {w : World} {m : Manager}
  (hcreate : ((Manager.create registry snapshot).perform w).1 = .ok m)
include hcreate

/-- A new manager has no handles. -/
theorem created : m.handles = [] ∧ m.shared = none ∧ m.ready = none ∧ m.isLocked = false ∧
    m.active = snapshot ∧ m.pool = poolFor snapshot.settings ∧ m.world.events = w.events ∧ m.world.wires = w.wires := by
  rw [Manager.perform_create] at hcreate
  rcases hchosen : registry.collaborators snapshot.settings with e | chosen
  · simp only [hchosen] at hcreate
    cases hcreate
  rcases hhandle : Handle.create snapshot false with e | handle
  · simp only [hchosen, hhandle] at hcreate
    cases hcreate
  · simp only [hchosen, hhandle] at hcreate
    cases hcreate
    exact ⟨rfl, rfl, rfl, rfl, rfl, rfl, rfl, rfl⟩

theorem balanced_of_create : Balanced ⟨m, []⟩ := by
  obtain ⟨hhandles, hshared, hready, hlocked, hactive, hpool, -, -⟩ := created hcreate
  have hidle : m.idle = [] := by
    rw [Manager.idle, hpool]
    rcases hitems : poolFor snapshot.settings with _ | pool
    · rfl
    · exact Manager.items_of_poolFor hitems
  -- there is nothing that could be idle, shared or open
  have hclosed (id : HandleId) : m.isOpen id = false := by
    rw [Manager.isOpen, Manager.connection?, Manager.handle?, hhandles]
    rfl
  refine ⟨⟨?_, ?_, ?_, ?_, ?_, ?_⟩, ?_, ?_⟩
  · intro pool hsome
    rw [hpool] at hsome
    rw [hactive, Pool.size, Manager.items_of_poolFor hsome]
    exact ⟨(capacity_of_poolFor hsome).2, Nat.zero_le _⟩
  · rw [hidle]
    exact List.nodup_nil
  · intro id hid
    rw [hidle] at hid
    cases hid
  · intro id hkept
    rw [hshared, hready] at hkept
    rcases hkept with hkept | hkept
    · cases hkept
    · cases hkept
  · exact List.forall_mem_nil _
  · exact List.forall_mem_nil _
  · intro hheld
    rw [hlocked] at hheld
    cases hheld
  · intro id hopen
    rw [hclosed] at hopen
    cases hopen

/-- **The books are in order** after every proper run. -/
theorem run_inOrder (hmoves : (Desk.mk m []).All Proper moves) :
    ((Desk.mk m []).run moves).manager.InOrder ((Desk.mk m []).run moves).out :=
  run_induction (I := fun d => d.manager.InOrder d.out) (fun _ _ hmove hd => step_inOrder hd hmove)
    (balanced_of_create hcreate).inOrder hmoves

/-- **The books balance** after every undisturbed run. -/
theorem run_balanced (hmoves : (Desk.mk m []).All Undisturbed moves) : ((Desk.mk m []).run moves).Balanced :=
  run_induction (fun _ _ hmove hd => hd.step hmove) (balanced_of_create hcreate) hmoves

end Run

end Desk

end DirectoryLogin

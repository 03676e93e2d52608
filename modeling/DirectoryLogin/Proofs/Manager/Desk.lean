import DirectoryLogin.Proofs.Manager.Books
/-!
# Lending Handles

The manager lends its handles out. A desk is a manager together with the handles that are out, and a run at the desk
is a list of moves in any order: operations of the manager by whoever calls it, uses of the handles that are out, and
changes outside. A block over a connection is three moves or more: a handle is acquired, used, and given back, by
`release` if the block has ended normally and by `abandon` if it has not.

- `Desk.run`: the desk after a run, whatever has failed on the way.
- `Desk.Proper`: a handle is given back by who has it, and no call would wait.
- `Desk.Undisturbed`: in addition, nothing but the body of a block is interrupted.
-/

namespace DirectoryLogin

/-! ## §1 Moves -/

/-- An operation of the manager, a use of a handle, or something that happens meanwhile. -/
inductive Move where
  | acquire
  /-- A handle is given back after a success. -/
  | release (id : HandleId)
  /-- A handle is given back after a failure. -/
  | close (id : HandleId)
  /-- The body of a block has raised something: its handle is closed, and so is every idle one. -/
  | abandon (id : HandleId)
  | drainPool
  | start
  | shutdown
  | reconfigure (snapshot : Snapshot)
  /-- A program runs on the connection of a handle. It may fail in any way. -/
  | use (id : HandleId) (x : Handle → Exchange Unit)
  /-- A message is written. -/
  | write (message : Message)
  /-- The directory changes, and the faults that are due. -/
  | outside (directory : Directory) (faults : List Fault)

namespace Move

/-- What a move runs. The value is the handle that is lent out by it, if one is. -/
def program : Move → Managed (Option HandleId)
  | acquire => some <$> Managed.acquire
  | release id => (fun _ => none) <$> Managed.release id
  | close id => (fun _ => none) <$> Managed.close id
  | abandon id => (fun _ => none) <$> (Managed.close id >>= fun _ => Managed.drainPool)
  | drainPool => (fun _ => none) <$> Managed.drainPool
  | start => (fun _ => none) <$> Managed.start
  | shutdown => (fun _ => none) <$> Managed.shutdown
  | reconfigure snapshot => (fun _ => none) <$> Managed.reconfigure snapshot
  | use id x => (fun _ => none) <$> Managed.onHandle id x
  | write message => (fun _ => none) <$> Managed.onWorld (modify (·.write message))
  | outside directory faults =>
    (fun _ => none) <$> Managed.onWorld (modify fun w => { w with directory := directory, faults := faults })

/-- The handle that a move gives back. -/
def returned : Move → Option HandleId
  | release id | close id | abandon id => some id
  | _ => none

/-- The move is a use of a handle. -/
def IsUse : Move → Prop
  | use .. => True
  | _ => False

instance (move : Move) : Decidable move.IsUse :=
  match move with
  | use .. => .isTrue trivial
  | acquire | release _ | close _ | abandon _ | drainPool | start | shutdown | reconfigure _ | write _ | outside .. =>
    .isFalse nofun

end Move

/-! ## §2 Runs -/

/-- A manager, and the handles that it has lent out. -/
structure Desk where
  manager : Manager
  /-- The handles that are out. -/
  out : List HandleId := []

namespace Desk

/-- How a move ends. -/
def result (d : Desk) (move : Move) : Except Failure (Option HandleId) :=
  (move.program.perform d.manager).1

/-- The desk after a move, whether it has failed or not. Whoever gives a handle back has given it back. -/
def step (d : Desk) (move : Move) : Desk where
  manager := (move.program.perform d.manager).2
  out := (d.result move).toOption.join.toList ++ move.returned.elim d.out d.out.erase

/-- The desk after a run. -/
def run (d : Desk) (moves : List Move) : Desk :=
  moves.foldl step d

/-- Every move of a run satisfies a condition at the moment it is made. -/
def All (P : Desk → Move → Prop) (d : Desk) : List Move → Prop
  | [] => True
  | move :: rest => P d move ∧ (d.step move).All P rest

/-- A handle is used and given back only while it is out, and no call waits for the mutex. New settings that are
rejected never get as far as that. -/
def Proper (d : Desk) : Move → Prop
  | .acquire | .start => d.manager.waits .acquire = false
  | .release id | .close id | .abandon id | .use id _ => id ∈ d.out
  | .shutdown => d.manager.waits .shutdown = false
  | .reconfigure snapshot =>
    d.manager.waits (.reconfigure snapshot.settings) = true → d.result (.reconfigure snapshot) ≠ .error .blocked
  | .drainPool | .write _ | .outside .. => True

/-- A proper move, and no interrupt comes out of it. Only the body of a block may raise one. -/
def Undisturbed (d : Desk) (move : Move) : Prop :=
  d.Proper move ∧ (¬ move.IsUse → FailsOrdinarily (d.result move))

instance (d : Desk) (move : Move) : Decidable (d.Proper move) :=
  match move with
  | .acquire | .start | .shutdown => inferInstanceAs (Decidable (_ = false))
  | .release id | .close id | .abandon id | .use id _ => inferInstanceAs (Decidable (id ∈ d.out))
  | .reconfigure _ => inferInstanceAs (Decidable (_ = true → _ ≠ _))
  | .drainPool | .write _ | .outside .. => .isTrue trivial

instance (d : Desk) (move : Move) : Decidable (d.Undisturbed move) :=
  inferInstanceAs (Decidable (_ ∧ (¬ move.IsUse → _)))

/-- Whether a run is proper can be found out by making it. -/
instance All.decidable {P : Desk → Move → Prop} [∀ d move, Decidable (P d move)] :
    (d : Desk) → (moves : List Move) → Decidable (d.All P moves)
  | _, [] => .isTrue trivial
  | d, move :: rest =>
    have : Decidable ((d.step move).All P rest) := All.decidable (d.step move) rest
    inferInstanceAs (Decidable (P d move ∧ (d.step move).All P rest))

variable {d : Desk} {P : Desk → Move → Prop} {moves later : List Move}

theorem run_append (d : Desk) (moves later : List Move) : d.run (moves ++ later) = (d.run moves).run later :=
  List.foldl_append

theorem all_append_iff : d.All P (moves ++ later) ↔ d.All P moves ∧ (d.run moves).All P later := by
  induction moves generalizing d with
  | nil => simp [All, run]
  | cons move rest ih =>
    have hrun : d.run (move :: rest) = (d.step move).run rest := rfl
    simp only [List.cons_append, All, ih, hrun, and_assoc]

/-- **Invariants of runs**: what every move keeps holds after the run. -/
theorem run_induction {I : Desk → Prop} (hstep : ∀ d move, P d move → I d → I (d.step move)) (hd : I d)
    (h : d.All P moves) : I (d.run moves) := by
  induction moves generalizing d with
  | nil => exact hd
  | cons move rest ih => exact ih (hstep d move h.1 hd) h.2

theorem Undisturbed.proper {move : Move} (h : d.Undisturbed move) : d.Proper move :=
  h.1

/-! ## §3 What moves leave alone -/

/-- The state after a move is that after its program. -/
theorem manager_step (d : Desk) (move : Move) : (d.step move).manager = (move.program.perform d.manager).2 :=
  rfl

/-- Whatever is done short of new settings, every handle is retained, and the same snapshot is active. -/
theorem program_retains {move : Move} (hother : ∀ snapshot, move ≠ .reconfigure snapshot) :
    move.program.Respects fun m m' => Manager.Retains m m' ∧ m'.active = m.active := by
  have hstays {α : Type} {x : Managed α} (hx : x.Respects Manager.Stays) (f : α → Option HandleId) :
      (f <$> x).Respects fun m m' => Manager.Retains m m' ∧ m'.active = m.active :=
    (hx.map f).mono fun _ _ h => ⟨h.toKeeps.retains, h.active⟩
  have hbooks {α : Type} {x : Managed α} (hx : x.Respects Manager.SameBooks) (f : α → Option HandleId) :
      (f <$> x).Respects fun m m' => Manager.Retains m m' ∧ m'.active = m.active :=
    (hx.map f).mono fun _ _ h => ⟨h.retains, h.active⟩
  cases move with
  | acquire => exact hstays Managed.acquire_stays _
  | release id => exact hstays (Managed.release_stays id) _
  | close id => exact hstays (Managed.close_stays id) _
  | abandon id => exact hstays (.bind (Managed.close_stays id) fun _ => Managed.drainPool_stays) _
  | drainPool => exact hstays Managed.drainPool_stays _
  | start => exact hstays Managed.start_stays _
  | shutdown => exact hstays Managed.shutdown_stays _
  | reconfigure snapshot => exact absurd rfl (hother snapshot)
  -- what is done over a connection or in the world leaves even the books alone
  | use id x => exact hbooks (Managed.onHandle_sameBooks id x) _
  | write message => exact hbooks (Managed.onWorld_sameBooks _) _
  | outside directory faults => exact hbooks (Managed.onWorld_sameBooks _) _

/-- **Every handle is retained**, with its snapshot, whatever happens at the desk. -/
theorem step_retains (d : Desk) (move : Move) : Manager.Retains d.manager (d.step move).manager := by
  by_cases hmove : ∃ snapshot, move = .reconfigure snapshot
  · obtain ⟨snapshot, rfl⟩ := hmove
    exact (((Managed.reconfigure_keeps snapshot).map _) d.manager).retains
  · exact (program_retains (fun snapshot heq => hmove ⟨snapshot, heq⟩) d.manager).1

theorem run_retains (d : Desk) (moves : List Move) : Manager.Retains d.manager (d.run moves).manager := by
  induction moves generalizing d with
  | nil => exact refl_of Manager.Retains d.manager
  | cons move rest ih => exact trans_of Manager.Retains (step_retains d move) (ih (d.step move))

/-- A snapshot becomes active only by being made active. -/
theorem active_step (d : Desk) (move : Move) :
    (d.step move).manager.active = d.manager.active ∨ move = .reconfigure (d.step move).manager.active := by
  by_cases hmove : ∃ snapshot, move = .reconfigure snapshot
  · obtain ⟨snapshot, rfl⟩ := hmove
    rw [manager_step, Move.program, Session.perform_map]
    -- new settings that are rejected change nothing
    rcases Managed.reconfigure_active snapshot d.manager with hactive | hactive
    · exact .inl hactive
    · exact .inr (congrArg Move.reconfigure hactive.symm)
  · exact .inl (program_retains (fun snapshot heq => hmove ⟨snapshot, heq⟩) d.manager).2

/-- **A snapshot that is active after a run** was active before it, or the run has made it active. -/
theorem active_run (d : Desk) (moves : List Move) :
    (d.run moves).manager.active = d.manager.active ∨
      ∃ before after, moves = before ++ .reconfigure (d.run moves).manager.active :: after ∧
        (d.run (before ++ [.reconfigure (d.run moves).manager.active])).manager.active =
          (d.run moves).manager.active := by
  induction moves generalizing d with
  | nil => exact .inl rfl
  | cons move rest ih =>
    have hrun : d.run (move :: rest) = (d.step move).run rest := rfl
    rw [hrun]
    rcases ih (d.step move) with hsame | ⟨before, after, hsplit, hactive⟩
    · rcases active_step d move with hactive | hactive
      · exact .inl (hsame.trans hactive)
      · -- the first move has made it active, and nothing has changed that since
        rw [← hsame] at hactive
        refine .inr ⟨[], rest, congrArg (· :: rest) hactive, ?_⟩
        rw [← hactive]
        exact hsame.symm
    · refine .inr ⟨move :: before, after, congrArg (move :: ·) hsplit, ?_⟩
      exact hactive

end Desk

end DirectoryLogin

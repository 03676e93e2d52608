import DirectoryLogin.Proofs.Manager.Clearing
import DirectoryLogin.Proofs.Realm.CallMoves
/-!
# Retrying

A block over a connection that has failed may be made once more. By then its connection has been ended, and there is
none left to be handed out again, so that the second attempt gets a new one. If no connection can be opened, nothing is
tried again. A call that has to report a failure leaves no connection behind either.

- `Desk.GivenUp`: what a block that has failed leaves.
- `Desk.block_goes`: how a block goes that begins while nobody has a handle.
- `Desk.RetriesOnce`: what may be done in a call, and when.
- `retry_bounded_fresh_and_clean`: every call keeps to this, in every state in which nobody has a handle.
-/

namespace DirectoryLogin

open Manager Managed

/-! ## §1 One handle -/

namespace Managed

variable {α : Type} {m m₁ : Manager} {id : HandleId} {x : Handle → Exchange α}

/-- One handle is out, which was made for the active snapshot and belongs to a pool if there is one, and no fault that
is due is an interrupt. -/
structure LentOnly (m : Manager) (id : HandleId) : Prop where
  inOrder : m.InOrder [id]
  stocked : m.Stocked [id]
  serving : m.Serving id m.pool.isSome
  calm : m.Calm

/-- Whoever asks first, while nobody has a handle. -/
theorem lentOnly_of_acquire_ok (hm : m.InOrder []) (hs : m.Stocked []) (hcalm : m.Calm)
    (h : acquire.perform m = (.ok id, m₁)) : LentOnly m₁ id := by
  -- the mutex did not have to be waited for, or nothing would have been acquired
  have hwaits : m.waits .acquire = false := by
    by_contra hwaits
    rw [acquire_of_waits (Bool.not_eq_false _ ▸ hwaits)] at h
    cases h
  have hlends := acquire_lends hm hwaits
  have hstocked := acquire_stocked hm hs hwaits
  have hcalm₁ := (acquire_completes hcalm hwaits).2
  have hactive := (acquire_stays m).active
  have hpooled := acquire_pooled hm hwaits h
  -- what is idle belongs to the active settings
  have hcurrent : m.PoolCurrent := by
    intro pool hpool other hother
    apply (hm.idle other _).isCurrent
    rwa [Manager.idle, hpool]
  obtain ⟨handle, c, hid, hsnapshot, -⟩ := acquire_ok hcurrent h
  rw [h] at hlends hstocked hcalm₁ hactive
  rw [isPooled_of_handle hid] at hpooled
  exact ⟨hlends.inOrder, hstocked, ⟨handle, hid, hsnapshot.trans hactive.symm, hpooled⟩, hcalm₁⟩

namespace LentOnly

variable (hm : LentOnly m id)
include hm

theorem isPooled : m.isPooled id = m.pool.isSome :=
  hm.serving.isPooled

/-- Whatever is done over the connection. -/
theorem used (hx : ∀ h, Exchange.Orderly h.settings (fun _ => True) (x h)) :
    LentOnly ((onHandle id x).perform m).2 id := by
  have hbooks := onHandle_sameBooks id x m
  have hleaves := onHandle_leaves (P := fun other => other ∈ m.idle ∨ other ∈ [id]) id x m
  obtain ⟨-, hcalm⟩ := onHandle_completes id (fun h => (hx h).completes) m hm.calm
  refine ⟨hm.inOrder.ofBooks hbooks, hm.stocked.ofLeaves hleaves fun _ h => h, ?_, hcalm⟩
  rw [hbooks.pool]
  exact hbooks.retains.serving hbooks.active hm.serving

/-- The connection has a wire, and what is done over it leaves it there. -/
theorem connection_used (hx : ∀ h, Exchange.Orderly h.settings (fun _ => True) (x h)) :
    ∃ c c', m.connection? id = some c ∧ ((onHandle id x).perform m).2.connection? id = some c' ∧ c'.wire = c.wire := by
  obtain ⟨c, hc⟩ := Option.isSome_iff_exists.mp (hm.stocked.lent id List.mem_cons_self)
  obtain ⟨h, hid, hopen⟩ := of_connection?_eq_some hc
  have hengages := (hx h).engages ⟨c, m.world⟩
  rw [perform_onHandle_of_open hid hopen]
  refine ⟨c, _, hc, ?_, hengages.wire⟩
  refine (connection?_setConnection m id id _).trans ?_
  rw [if_pos rfl, hid]
  rfl

/-- The handle is given back after a success. -/
theorem released : ∃ m', (release id).perform m = (.ok (), m') := by
  obtain ⟨hordinary, -⟩ := release_completes id m hm.calm
  have hvalue := ((release_givesBack hm.inOrder List.mem_cons_self).ordinary hordinary).1
  exact ⟨_, Prod.ext hvalue rfl⟩

/-- The handle is given back after a failure. -/
theorem abandoned : ∃ m', (close id >>= fun _ => drainPool).perform m = (.ok (), m') ∧ Abandoned m id m' ∧
    m'.InOrder [] ∧ m'.Stocked [] ∧ m'.Calm ∧ m'.Cleared ∧ (m'.pool = none → (m'.sharedFor? m'.active).isSome) := by
  have hcompletes : Session.Completes Calm (close id >>= fun _ => drainPool) :=
    .bind (close_completes id) fun _ => drainPool_completes
  have hback := abandon_givesBack hm.inOrder List.mem_cons_self
  have hstays : Stays m ((close id >>= fun _ => drainPool).perform m).2 :=
    (Session.Respects.bind (close_stays id) fun _ => drainPool_stays) m
  obtain ⟨hordinary, hcalm⟩ := hcompletes m hm.calm
  obtain ⟨hvalue, -, -⟩ := hback.ordinary hordinary
  have hinOrder := hback.inOrder
  rw [List.erase_cons_head] at hinOrder
  rcases hrun : (close id >>= fun _ => drainPool).perform m with ⟨_, m'⟩
  rw [hrun] at hvalue hstays hcalm hinOrder
  cases hvalue
  have hgone := of_abandon_ok hrun
  have hcleared := hgone.cleared hm.inOrder hm.stocked hm.isPooled
  refine ⟨m', rfl, hgone, hinOrder, ⟨List.forall_mem_nil _, ?_, ?_⟩, hcalm, hcleared, ?_⟩
  · -- nothing is idle any more
    rw [hgone.idle]
    exact List.forall_mem_nil _
  · rw [hgone.pool, hgone.shared]
    exact hm.stocked.sole
  · intro hpool
    have hnone : m.pool.isSome = false := by rw [← hgone.pool, hpool]; rfl
    have hshared := (hm.inOrder.single id List.mem_cons_self (hm.isPooled.trans hnone)).2
    obtain ⟨handle, hid, hsnapshot, -⟩ := hm.serving.stays hstays
    rw [sharedFor?, hgone.shared, hshared, Option.filter_some, hid, Option.any_some, hsnapshot]
    simp

end LentOnly

end Managed

/-! ## §2 Blocks -/

namespace Move

variable {moves tail : List Move}

/-- How often a handle is used in a run. -/
def uses (moves : List Move) : Nat :=
  moves.countP fun move => decide move.IsUse

@[simp]
theorem uses_append (moves tail : List Move) : uses (moves ++ tail) = uses moves + uses tail :=
  List.countP_append

@[simp]
theorem uses_cons_use (id : HandleId) (y : Handle → Exchange Unit) (tail : List Move) :
    uses (.use id y :: tail) = uses tail + 1 :=
  List.countP_cons_of_pos rfl

theorem uses_of_cons {move : Move} (h : uses (move :: tail) = 0) : uses tail = 0 := by
  rw [uses, List.countP_cons] at h
  exact (Nat.add_eq_zero_iff.mp h).1

/-- There is one first use in a run. -/
theorem eq_of_first_use {xs before rest after : List Move} {i id : HandleId} {z y : Handle → Exchange Unit}
    (h : xs ++ .use i z :: rest = before ++ .use id y :: after) (hxs : uses xs = 0) (hbefore : uses before = 0) :
    before = xs ∧ Move.use id y = .use i z ∧ after = rest := by
  -- along the part before the use on the left
  induction xs generalizing before with
  | nil =>
    rcases before with _ | ⟨move, before⟩
    · obtain ⟨hsame, hrest⟩ := List.cons.inj h
      exact ⟨rfl, hsame.symm, hrest.symm⟩
    · obtain ⟨rfl, -⟩ := List.cons.inj h
      simp at hbefore
  | cons move xs ih =>
    rcases before with _ | ⟨move', before⟩
    · obtain ⟨rfl, -⟩ := List.cons.inj h
      simp at hxs
    · obtain ⟨hmove, hrest⟩ := List.cons.inj h
      obtain ⟨rfl, hsame, hlast⟩ := ih hrest (uses_of_cons hxs) (uses_of_cons hbefore)
      exact ⟨congrArg (· :: before) hmove.symm, hsame, hlast⟩

/-- No handle is used where messages are written. -/
theorem uses_eq_zero (hwrites : ∀ move ∈ moves, ∃ message, move = .write message) : uses moves = 0 := by
  rw [uses, List.countP_eq_zero]
  intro move hmove
  obtain ⟨message, rfl⟩ := hwrites move hmove
  exact Bool.false_ne_true

end Move

namespace Desk

variable {α : Type} {d : Desk} {x : Handle → Exchange α} {id : HandleId} {e : Failure} {moves tail : List Move}

/-- Nobody has a handle, and no fault that is due is an interrupt. -/
structure AtRest (d : Desk) : Prop where
  out : d.out = []
  inOrder : d.manager.InOrder []
  stocked : d.manager.Stocked []
  calm : d.manager.Calm

/-- Writing a message changes nothing that matters. -/
theorem AtRest.write (hd : d.AtRest) (message : Message) : (d.step (.write message)).AtRest where
  out := hd.out
  inOrder := hd.inOrder.ofBooks rfl
  stocked := ⟨hd.stocked.lent, hd.stocked.stacked, hd.stocked.sole⟩
  calm := hd.calm

/-- The moves of a block that has failed. -/
def givingUp (id : HandleId) (x : Handle → Exchange α) : List Move :=
  [.acquire, .use id (discard x), .abandon id]

/-- A block has failed: the end of its connection is on record, nobody has a handle any more, and there is no connection
to be handed out again. -/
structure GivenUp (d : Desk) (x : Handle → Exchange α) (id : HandleId) (e : Failure) : Prop where
  acquired : d.result .acquire = .ok (some id)
  used : (d.step .acquire).result (.use id (discard x)) = .error e
  ended : ∃ c, (d.step .acquire).manager.connection? id = some c ∧
    ⟨c.wire, .unbind⟩ ∈ (d.run (givingUp id x)).manager.world.events
  closed : (d.run (givingUp id x)).manager.isOpen id = false
  atRest : (d.run (givingUp id x)).AtRest
  cleared : (d.run (givingUp id x)).manager.Cleared
  kept : (d.run (givingUp id x)).manager.pool = none →
    ((d.run (givingUp id x)).manager.sharedFor? (d.run (givingUp id x)).manager.active).isSome

/-- How a block goes that nothing interrupts. -/
inductive Block (d : Desk) (x : Handle → Exchange α) : List Move → Except Failure α → Prop
  | unopened (e : Failure) (hfailed : d.result .acquire = .error e) (hretry : e.isRetryable = false)
    (hcleared : e.isOrdinary = true → (d.step .acquire).manager.Cleared) : Block d x [.acquire] (.error e)
  | finished (id : HandleId) (a : α) (hacquired : d.result .acquire = .ok (some id)) :
    Block d x [.acquire, .use id (discard x), .release id] (.ok a)
  | failed (id : HandleId) (e : Failure) (h : d.GivenUp x id e) : Block d x (givingUp id x) (.error e)

/-- A use of a handle, by the program that is run. -/
theorem result_use (d : Desk) (id : HandleId) (x : Handle → Exchange α) :
    d.result (.use id (discard x)) = ((onHandle id x).perform d.manager).1.map fun _ => none := by
  have hmap : onHandle id (discard x) = (fun _ => ()) <$> onHandle id x := onHandle_map id _ x
  rw [result_of_program (x := onHandle id (discard x)) rfl, hmap, Session.perform_map]
  rcases ((onHandle id x).perform d.manager).1 with _ | _ <;> rfl

theorem step_use (d : Desk) (id : HandleId) (x : Handle → Exchange α) :
    d.step (.use id (discard x)) = ⟨((onHandle id x).perform d.manager).2, d.out⟩ := by
  have hmap : onHandle id (discard x) = (fun _ => ()) <$> onHandle id x := onHandle_map id _ x
  rw [step_of_program (x := onHandle id (discard x)) rfl, hmap, Session.perform_map]
  rfl

/-- A handle that has been had. -/
theorem perform_acquire_of_result (h : d.result .acquire = .ok (some id)) :
    acquire.perform d.manager = (.ok id, (d.step .acquire).manager) := by
  rw [result_acquire] at h
  rw [step_acquire]
  rcases hrun : acquire.perform d.manager with ⟨e | id', m⟩
  all_goals
    rw [hrun] at h
    cases h
  rfl

/-- **A failure in a block** costs its connection, and all that are idle. -/
theorem AtRest.givenUp (hd : d.AtRest) (hx : ∀ h, Exchange.Orderly h.settings (fun _ => True) (x h)) {m₁ m₂ : Manager}
    (hacquire : acquire.perform d.manager = (.ok id, m₁)) (huse : (onHandle id x).perform m₁ = (.error e, m₂)) :
    ∃ m₃, (close id >>= fun _ => drainPool).perform m₂ = (.ok (), m₃) ∧ d.GivenUp x id e := by
  have hlent := lentOnly_of_acquire_ok hd.inOrder hd.stocked hd.calm hacquire
  have hused := hlent.used hx
  obtain ⟨c, c', hc, hc', hwire⟩ := hlent.connection_used hx
  rw [huse] at hused hc'
  obtain ⟨m₃, habandon, hgone, hinOrder, hstocked, hcalm, hcleared, hkept⟩ := hused.abandoned
  -- what the moves leave, one after the other
  have hacquired : d.step .acquire = ⟨m₁, [id]⟩ := by
    rw [step_acquire, hacquire, hd.out]
    rfl
  have hrun : d.run (givingUp id x) = ⟨m₃, []⟩ := by
    rw [givingUp, run_cons, hacquired, run_cons, step_use, huse, run_cons, run_nil,
      step_of_program (x := close id >>= fun _ => drainPool) rfl, habandon]
    exact congrArg (Desk.mk m₃) (List.erase_cons_head id [])
  refine ⟨m₃, habandon, ?_, ?_, ?_, ?_, ?_, ?_, ?_⟩
  · rw [result_acquire, hacquire]
    rfl
  · rw [hacquired, result_use, huse]
    rfl
  · rw [hacquired, hrun]
    refine ⟨c, hc, ?_⟩
    rw [← hwire]
    exact hgone.ended c' hc'
  · rw [hrun]
    exact hgone.closed
  · rw [hrun]
    exact ⟨rfl, hinOrder, hstocked, hcalm⟩
  · rw [hrun]
    exact hcleared
  · rw [hrun]
    exact hkept

/-- **How a block goes**: no handle can be had, or all is well, or it fails and is given up. -/
theorem AtRest.block_goes (hd : d.AtRest) (hx : ∀ h, Exchange.Orderly h.settings (fun _ => True) (x h)) :
    d.Block x (d.block x) ((attempt x).perform d.manager).1 := by
  rw [attempt_eq, withConnection, block]
  rcases hacquire : acquire.perform d.manager with ⟨e | id, m₁⟩
  · rw [Session.perform_bind_of_error hacquire]
    have hresult : d.result .acquire = .error e := by
      rw [result_acquire, hacquire]
      rfl
    have hmanager : (d.step .acquire).manager = m₁ := by rw [step_acquire, hacquire]
    rcases hwaits : d.manager.waits .acquire with _ | _
    · refine .unopened e hresult ?_ fun hordinary => ?_
      · by_cases hordinary : e.isOrdinary = true
        · exact (acquire_clears hd.inOrder hd.stocked hwaits hacquire hordinary).1
        · cases e <;> first | rfl | exact absurd rfl hordinary
      · rw [hmanager]
        exact (acquire_clears hd.inOrder hd.stocked hwaits hacquire hordinary).2
    · -- the call never returns
      rw [acquire_of_waits hwaits] at hacquire
      cases hacquire
      exact .unopened .blocked hresult rfl fun hordinary => absurd hordinary Bool.false_ne_true
  · have hresult : d.result .acquire = .ok (some id) := by
      rw [result_acquire, hacquire]
      rfl
    have hmanager : (d.step .acquire).manager = m₁ := by rw [step_acquire, hacquire]
    rw [Session.perform_bind_of_ok hacquire, Session.perform_bind, Session.perform_onFailure, hmanager]
    dsimp only
    rcases huse : (onHandle id x).perform m₁ with ⟨e | a, m₂⟩
    · obtain ⟨m₃, habandon, hgiven⟩ := hd.givenUp hx hacquire huse
      simp only [if_true, habandon]
      exact .failed id e hgiven
    · have hlent := (lentOnly_of_acquire_ok hd.inOrder hd.stocked hd.calm hacquire).used hx
      rw [huse] at hlent
      obtain ⟨m₃, hrelease⟩ := hlent.released
      dsimp only
      rw [Session.perform_bind_of_ok hrelease]
      exact .finished id a hresult

namespace Block

variable {result : Except Failure α}

/-- The moves of a block: one, or three. -/
theorem moves_eq (h : d.Block x moves result) :
    moves = [.acquire] ∨ ∃ id back, moves = [.acquire, .use id (discard x), back] ∧
      d.result .acquire = .ok (some id) ∧ (back = .release id ∨ back = .abandon id) := by
  cases h with
  | unopened => exact .inl rfl
  | finished id _ hacquired => exact .inr ⟨id, _, rfl, hacquired, .inl rfl⟩
  | failed id _ hgiven => exact .inr ⟨id, _, rfl, hgiven.acquired, .inr rfl⟩

theorem uses_le (h : d.Block x moves result) : Move.uses moves ≤ 1 := by
  rcases h.moves_eq with rfl | ⟨id, back, rfl, -, rfl | rfl⟩
  · exact Nat.zero_le 1
  · exact Nat.le_refl 1
  · exact Nat.le_refl 1

/-- A block writes nothing itself. -/
theorem not_write (h : d.Block x moves result) (message : Message) : .write message ∉ moves := by
  rcases h.moves_eq with rfl | ⟨id, back, rfl, -, rfl | rfl⟩ <;> simp

/-- **A block that has failed** leaves no connection to be handed out again. -/
theorem cleared (h : d.Block x moves (.error e)) (hordinary : e.isOrdinary = true) :
    (d.run moves).manager.Cleared := by
  cases h with
  | unopened _ _ _ hcleared => exact hcleared hordinary
  | failed _ _ hgiven => exact hgiven.cleared

end Block

/-! ## §3 Calls -/

/-- A use of a handle that is a retry of another one in a run: that one has failed in a way that may be mended, and this
one is on a connection that was opened only after the end of the other one was on record. -/
structure IsRetry (d : Desk) (before : List Move) (id : HandleId) (y : Handle → Exchange Unit) (between : List Move)
    (id' : HandleId) (y' : Handle → Exchange Unit) : Prop where
  same : y' = y
  failed : ∃ e, (d.run before).result (.use id y) = .error e ∧ e.isRetryable = true
  renewed : ∃ c c' closing opening, between = closing ++ opening ∧
    (d.run before).manager.connection? id = some c ∧
    (d.run (before ++ .use id y :: between)).manager.connection? id' = some c' ∧
    (d.run (before ++ .use id y :: closing)).manager.isOpen id = false ∧
    ⟨c.wire, .unbind⟩ ∈ (d.run (before ++ .use id y :: closing)).manager.world.events ∧
    (d.run (before ++ .use id y :: closing)).manager.world.wires.length < c'.wire

/-- What may be done in a call: a handle is used once, or twice if the second use is a retry of the first; after a
handle could not be had, nothing is done but to write messages; and a failure is reported only when there is no
connection left that could be handed out again. -/
structure RetriesOnce (d : Desk) (moves : List Move) : Prop where
  twice : Move.uses moves ≤ 2
  again : ∀ before id y between id' y' after,
    moves = before ++ .use id y :: (between ++ .use id' y' :: after) → d.IsRetry before id y between id' y'
  unopened : ∀ before e after, moves = before ++ .acquire :: after → (d.run before).result .acquire = .error e →
    ∀ move ∈ after, ∃ message, move = .write message
  cleared : (∃ text, .write ⟨.error, .realm, text⟩ ∈ moves) → (d.run moves).manager.Cleared

/-- **The second attempt** runs on a connection that was opened after the first one had been ended. -/
theorem GivenUp.isRetry (h : d.GivenUp x id e) (hretry : e.isRetryable = true) (note : String) {id' : HandleId}
    (hacquired : ((d.run (givingUp id x)).step (.write ⟨.info, .realm, note⟩)).result .acquire = .ok (some id')) :
    d.IsRetry [.acquire] id (discard x) [.abandon id, .write ⟨.info, .realm, note⟩, .acquire] id' (discard x) := by
  -- closing comes before the second acquire
  have hclosing : d.run ([.acquire] ++ .use id (discard x) :: [.abandon id]) = d.run (givingUp id x) := rfl
  have hbetween : d.run ([.acquire] ++ .use id (discard x) ::
        [.abandon id, .write ⟨.info, .realm, note⟩, .acquire]) =
      ((d.run (givingUp id x)).step (.write ⟨.info, .realm, note⟩)).step .acquire := by
    simp only [givingUp, List.singleton_append, run_cons, run_nil]
  obtain ⟨hacquired', hused, ⟨c, hc, hended⟩, hclosed, -, hcleared, hkept⟩ := h
  -- the second handle is acquired behind the cleared state, so its connection is new
  have hacquire := perform_acquire_of_result hacquired
  rw [← hbetween] at hacquire
  generalize d.run (givingUp id x) = d₁ at *
  have hcleared₁ : (d₁.step (.write ⟨.info, .realm, note⟩)).manager.Cleared := hcleared.same rfl rfl fun _ => rfl
  obtain ⟨c', hc', hnew⟩ := acquire_anew hcleared₁ hkept hacquire
  refine ⟨rfl, ⟨e, hused, hretry⟩, c, c', [.abandon id], [.write ⟨.info, .realm, note⟩, .acquire], rfl, hc, hc', ?_⟩
  rw [hclosing]
  exact ⟨hclosed, hended, hnew⟩

/-- How the blocks and the messages of a call follow each other. -/
inductive Answered (d : Desk) (x : Handle → Exchange α) : List Move → Prop
  | once {moves tail : List Move} {result : Except Failure α} (h : d.Block x moves result)
    (hwrites : ∀ move ∈ tail, ∃ message, move = .write message)
    (hcleared : (∃ text, .write ⟨.error, .realm, text⟩ ∈ tail) → (d.run moves).manager.Cleared) :
    Answered d x (moves ++ tail)
  | twice {id : HandleId} {e : Failure} {moves tail : List Move} {result : Except Failure α} (note : String)
    (hgiven : d.GivenUp x id e) (hretry : e.isRetryable = true)
    (h : ((d.run (givingUp id x)).step (.write ⟨.info, .realm, note⟩)).Block x moves result)
    (hwrites : ∀ move ∈ tail, ∃ message, move = .write message)
    (hcleared : (∃ text, .write ⟨.error, .realm, text⟩ ∈ tail) →
      (((d.run (givingUp id x)).step (.write ⟨.info, .realm, note⟩)).run moves).manager.Cleared) :
    Answered d x (givingUp id x ++ .write ⟨.info, .realm, note⟩ :: (moves ++ tail))

/-- A move that is not in the first part of a run is in the rest. -/
theorem exists_of_append_eq {early rest before after : List Move} {move : Move}
    (h : early ++ rest = before ++ move :: after) (hearly : move ∉ early) :
    ∃ mid, before = early ++ mid ∧ rest = mid ++ move :: after := by
  rcases List.append_eq_append_iff.mp h with ⟨mid, hbefore, hrest⟩ | ⟨mid, hsplit, hrest⟩
  · exact ⟨mid, hbefore, hrest⟩
  · rcases mid with _ | ⟨first, mid⟩
    · refine ⟨[], ?_, ?_⟩
      · simpa using hsplit.symm
      · simpa using hrest.symm
    · -- then the first part would contain it
      obtain ⟨rfl, -⟩ := List.cons.inj hrest
      simp [hsplit] at hearly

/-- Messages change nothing that matters. -/
theorem cleared_run (hwrites : ∀ move ∈ tail, ∃ message, move = .write message) (hd : d.manager.Cleared) :
    (d.run tail).manager.Cleared := by
  induction tail generalizing d with
  | nil => exact hd
  | cons move rest ih =>
    obtain ⟨⟨message, rfl⟩, hrest⟩ := List.forall_mem_cons.mp hwrites
    exact ih hrest (hd.same rfl rfl fun _ => rfl)

/-- After a handle could not be had in a block, only messages are left. -/
theorem Block.unopened_of_split {result : Except Failure α} (h : d.Block x moves result)
    (hwrites : ∀ move ∈ tail, ∃ message, move = .write message) {before after : List Move}
    (hsplit : moves ++ tail = before ++ .acquire :: after) (hfailed : (d.run before).result .acquire = .error e) :
    ∀ move ∈ after, ∃ message, move = .write message := by
  have hnone : .acquire ∉ tail := fun hmem => by
    obtain ⟨message, heq⟩ := hwrites _ hmem
    cases heq
  rcases h.moves_eq with rfl | ⟨id, back, rfl, hacquired, hback⟩
  · rcases List.cons_eq_append_iff.mp hsplit with ⟨rfl, heq⟩ | ⟨before, rfl, heq⟩
    · cases heq
      exact hwrites
    · have heq : tail = before ++ .acquire :: after := heq
      exact absurd (by simp [heq]) hnone
  · rcases List.cons_eq_append_iff.mp hsplit with ⟨rfl, heq⟩ | ⟨before, rfl, heq⟩
    · -- the first handle could be had
      have hfailed : d.result .acquire = .error e := hfailed
      rw [hacquired] at hfailed
      cases hfailed
    · have heq : [.use id (discard x), back] ++ tail = before ++ .acquire :: after := heq
      have hmem : Move.acquire ∈ [.use id (discard x), back] ++ tail := by simp [heq]
      rcases hback with rfl | rfl <;> simp [hnone] at hmem

theorem uses_twice (id : HandleId) (x : Handle → Exchange α) (message : Message) (moves tail : List Move) :
    Move.uses (givingUp id x ++ .write message :: (moves ++ tail)) = 1 + Move.uses moves + Move.uses tail := by
  rw [Move.uses_append, Nat.add_assoc, ← Move.uses_append moves]
  rfl

namespace Answered

variable (h : d.Answered x moves)
include h

theorem uses_le : Move.uses moves ≤ 2 := by
  cases h with
  | once h hwrites =>
    have hblock := h.uses_le
    have htail := Move.uses_eq_zero hwrites
    rw [Move.uses_append]
    omega
  | twice note _ _ h hwrites =>
    have hblock := h.uses_le
    have htail := Move.uses_eq_zero hwrites
    rw [uses_twice]
    omega

theorem unopened {before after : List Move} (hsplit : moves = before ++ .acquire :: after)
    (hfailed : (d.run before).result .acquire = .error e) : ∀ move ∈ after, ∃ message, move = .write message := by
  cases h with
  | once h hwrites => exact h.unopened_of_split hwrites hsplit hfailed
  | @twice id _ second _ _ note hgiven _ h hwrites =>
    rcases List.cons_eq_append_iff.mp hsplit with ⟨rfl, heq⟩ | ⟨before, rfl, heq⟩
    · -- the first handle could be had
      have hfailed : d.result .acquire = .error e := hfailed
      rw [hgiven.acquired] at hfailed
      cases hfailed
    · have heq : [.use id (discard x), .abandon id, .write ⟨.info, .realm, note⟩] ++ (second ++ _) =
        before ++ .acquire :: after := heq
      obtain ⟨mid, rfl, hrest⟩ := exists_of_append_eq heq (by simp)
      have hrun : d.run (.acquire :: ([.use id (discard x), .abandon id, .write ⟨.info, .realm, note⟩] ++ mid)) =
          ((d.run (givingUp id x)).step (.write ⟨.info, .realm, note⟩)).run mid := by
        simp only [givingUp, List.cons_append, List.nil_append, run_cons, run_nil]
      rw [hrun] at hfailed
      exact h.unopened_of_split hwrites hrest hfailed

theorem cleared (hreport : ∃ text, .write ⟨.error, .realm, text⟩ ∈ moves) : (d.run moves).manager.Cleared := by
  obtain ⟨text, hmem⟩ := hreport
  cases h with
  | once h hwrites hcleared =>
    -- the message stands behind the block, which writes none itself
    rcases List.mem_append.mp hmem with hblock | htail
    · exact absurd hblock (h.not_write _)
    · rw [run_append]
      exact cleared_run hwrites (hcleared ⟨text, htail⟩)
  | twice note _ _ h hwrites hcleared =>
    have hmem : Move.write ⟨.error, .realm, text⟩ ∈ ‹List Move› := by
      rcases List.mem_append.mp hmem with hfirst | hrest
      · simp [givingUp] at hfirst
      · rcases List.mem_cons.mp hrest with hnote | hrest
        · cases hnote
        · exact (List.mem_append.mp hrest).resolve_left (h.not_write _)
    rw [run_append, run_cons, run_append]
    exact cleared_run hwrites (hcleared ⟨text, hmem⟩)

/-- With two uses, the call has made its block a second time. -/
theorem isRetry {before between after : List Move} {id id' : HandleId} {y y' : Handle → Exchange Unit}
    (hsplit : moves = before ++ .use id y :: (between ++ .use id' y' :: after)) :
    d.IsRetry before id y between id' y' := by
  cases h with
  | once h hwrites =>
    -- one block uses its handle once
    have hcount := congrArg Move.uses hsplit
    have hblock := h.uses_le
    have htail := Move.uses_eq_zero hwrites
    simp only [Move.uses_append, Move.uses_cons_use] at hcount
    omega
  | @twice first e second tail _ note hgiven hretry h hwrites =>
    have htail := Move.uses_eq_zero hwrites
    have hblock := h.uses_le
    have hcount := congrArg Move.uses hsplit
    rw [uses_twice] at hcount
    simp only [Move.uses_append, Move.uses_cons_use] at hcount
    rcases h.moves_eq with rfl | ⟨id₂, back, rfl, hacquired, hback⟩
    · -- without a second connection there is no second use
      have hnone : Move.uses [.acquire] = 0 := rfl
      omega
    · have hlist : [.acquire] ++ .use first (discard x) :: ([.abandon first, .write ⟨.info, .realm, note⟩, .acquire] ++
          .use id₂ (discard x) :: (back :: tail)) = before ++ .use id y :: (between ++ .use id' y' :: after) := hsplit
      -- the first of the two uses is that of the first block, and the second is that of the second block
      obtain ⟨rfl, hsame, hrest⟩ := Move.eq_of_first_use hlist rfl (by omega)
      obtain ⟨rfl, hsame', -⟩ := Move.eq_of_first_use hrest.symm rfl (by omega)
      cases hsame
      cases hsame'
      exact hgiven.isRetry hretry note hacquired

theorem retriesOnce : d.RetriesOnce moves where
  twice := h.uses_le
  again _ _ _ _ _ _ _ hsplit := h.isRetry hsplit
  unopened _ _ _ hsplit hfailed := h.unopened hsplit hfailed
  cleared hreport := h.cleared hreport

/-- A remark at the end. -/
theorem concat (text : String) : d.Answered x (moves ++ [.write ⟨.info, .realm, text⟩]) := by
  -- one more message changes neither what was written nor what was reported
  have hwrite {tail : List Move} (hwrites : ∀ move ∈ tail, ∃ message, move = .write message) :
      ∀ move ∈ tail ++ [.write ⟨.info, .realm, text⟩], ∃ message, move = .write message :=
    List.forall_mem_append.mpr ⟨hwrites, List.forall_mem_singleton.mpr ⟨_, rfl⟩⟩
  have hreport {tail : List Move}
      (hmem : ∃ text', .write ⟨.error, .realm, text'⟩ ∈ tail ++ [.write ⟨.info, .realm, text⟩]) :
      ∃ text', .write ⟨.error, .realm, text'⟩ ∈ tail := by
    obtain ⟨text', hmem⟩ := hmem
    exact ⟨text', by simpa using hmem⟩
  cases h with
  | once h hwrites hcleared =>
    rw [List.append_assoc]
    exact .once h (hwrite hwrites) fun hmem => hcleared (hreport hmem)
  | twice note hgiven hretry h hwrites hcleared =>
    rw [List.append_assoc, List.cons_append, List.append_assoc]
    exact .twice note hgiven hretry h (hwrite hwrites) fun hmem => hcleared (hreport hmem)

end Answered

/-- The message about a failure that remains. -/
def report (description : String) : Except Failure α → List Move
  | .ok _ => []
  | .error e =>
    if e.isOrdinary then [.write ⟨.error, .realm, "Directory " ++ description ++ " failed: " ++ e.message⟩] else []

theorem answer_eq (d : Desk) (description : String) (x : Handle → Exchange (Option α)) :
    d.answer description x =
      d.blockTwice description x ++ report description ((attemptTwice description x).perform d.manager).1 := by
  rw [answer]
  rcases ((attemptTwice description x).perform d.manager).1 with e | a <;> rfl

theorem report_writes (description : String) (result : Except Failure α) :
    ∀ move ∈ report description result, ∃ message, move = .write message := by
  unfold report
  split
  · exact List.forall_mem_nil _
  · split
    · exact List.forall_mem_singleton.mpr ⟨_, rfl⟩
    · exact List.forall_mem_nil _

/-- There is no report unless the last block has failed. -/
theorem Block.cleared_of_report {result : Except Failure α} (h : d.Block x moves result) {description : String}
    (hreport : ∃ text, .write ⟨.error, .realm, text⟩ ∈ report description result) : (d.run moves).manager.Cleared := by
  obtain ⟨text, hmem⟩ := hreport
  rcases result with e | a
  · by_cases hordinary : e.isOrdinary = true
    · exact h.cleared hordinary
    · simp [report, hordinary] at hmem
  · cases hmem

/-- **A call over a connection** is one block, or a block and its retry, and messages. -/
theorem AtRest.answered (hd : d.AtRest) {x : Handle → Exchange (Option α)}
    (hx : ∀ h, Exchange.Orderly h.settings (fun _ => True) (x h)) (description : String) :
    d.Answered x (d.answer description x) := by
  have hfirst := hd.block_goes hx
  have hrun := run_block d x
  have honce {result : Except Failure (Option α)} (h : d.Block x (d.block x) result) :
      d.Answered x (d.block x ++ report description result) :=
    .once h (report_writes _ _) h.cleared_of_report
  rw [answer_eq, blockTwice, attemptTwice, Session.perform_rescue]
  rcases hattempt : (attempt x).perform d.manager with ⟨e | a, m₁⟩
  all_goals
    rw [hattempt] at hfirst hrun
    dsimp only
  · by_cases hretry : e.isRetryable = true
    · -- the block has not failed for want of a connection
      simp only [hretry, if_true]
      generalize hmoves : d.block x = moves at hfirst hrun ⊢
      cases hfirst with
      | unopened _ _ hnot =>
        rw [hretry] at hnot
        cases hnot
      | failed id _ hgiven =>
        generalize "Directory " ++ description ++ " failed, retrying on a new connection: " ++ e.message = note
        have hsecond := (hgiven.atRest.write ⟨.info, .realm, note⟩).block_goes hx
        -- the second attempt begins where the message has been written
        have hwritten : ((onWorld (World.say .info .realm note) >>= fun _ => attempt x).perform m₁) =
            (attempt x).perform ((d.run (givingUp id x)).step (.write ⟨.info, .realm, note⟩)).manager := by
          rw [hrun, step_write]
          rfl
        rw [hwritten, List.append_assoc, List.cons_append]
        exact .twice note hgiven hretry hsecond (report_writes _ _) hsecond.cleared_of_report
    · simp only [hretry, Bool.false_eq_true, if_false, List.append_nil]
      exact honce hfirst
  · rw [List.append_nil]
    exact honce hfirst

/-- Where no handle is acquired or used and nothing is written, there is nothing to try again. -/
theorem retriesOnce_of_plain (h : ∀ move ∈ moves, ¬ move.IsUse ∧ move ≠ .acquire ∧ ∀ message, move ≠ .write message) :
    d.RetriesOnce moves := by
  have huses : Move.uses moves = 0 := by
    rw [Move.uses, List.countP_eq_zero]
    intro move hmove
    simpa using (h move hmove).1
  refine ⟨huses ▸ Nat.zero_le 2, ?_, ?_, ?_⟩
  · rintro before id y between id' y' after rfl
    simp at huses
  · rintro before e after rfl -
    exact absurd rfl (h .acquire (by simp)).2.1
  · rintro ⟨text, hmem⟩
    exact absurd rfl ((h _ hmem).2.2 _)

theorem retriesOnce_of_single {move : Move}
    (h : ¬ move.IsUse ∧ move ≠ .acquire ∧ ∀ message, move ≠ .write message) : d.RetriesOnce [move] :=
  retriesOnce_of_plain (List.forall_mem_singleton.mpr h)

end Desk

/-! ## §4 The theorem -/

/-- **The calls of a realm** retry once at most, if they begin while nobody has a handle. -/
theorem Realm.retriesOnce_moves {r : Realm} (hd : (r.desk []).AtRest) (activity : Activity) :
    (r.desk []).RetriesOnce (r.moves [] activity) := by
  cases activity with
  | authenticate username password =>
    rw [Realm.moves]
    split
    · rename_i name word _ _
      -- the login is one answer, perhaps with a message behind it
      have hanswered := hd.answered (x := fun h => Exchange.authenticate h r.matcher name word)
        (fun h => Exchange.Orderly.authenticate) "authentication"
      rw [Realm.loginMoves]
      split
      · rw [List.append_nil]
        exact hanswered.retriesOnce
      · exact (hanswered.concat _).retriesOnce
      · exact (hanswered.concat _).retriesOnce
    · exact Desk.retriesOnce_of_plain (List.forall_mem_nil _)
  | getPassword username =>
    rw [Realm.moves]
    split
    · exact Desk.retriesOnce_of_plain (List.forall_mem_nil _)
    · exact (hd.answered (fun h => Exchange.Orderly.storedPassword) _).retriesOnce
  | getPrincipal username credential =>
    rw [Realm.moves]
    split
    · exact (hd.answered (fun h => Exchange.Orderly.knownPrincipal) _).retriesOnce
    · exact Desk.retriesOnce_of_plain (List.forall_mem_nil _)
  | reconfigure snapshot =>
    rw [Realm.moves]
    split
    · exact Desk.retriesOnce_of_single (by simp [Move.IsUse])
    · exact Desk.retriesOnce_of_plain (List.forall_mem_nil _)
  | start => exact Desk.retriesOnce_of_single (by simp [Move.IsUse])
  | stop => exact Desk.retriesOnce_of_single (by simp [Move.IsUse])
  | _ => exact Desk.retriesOnce_of_plain (List.forall_mem_nil _)

/-- **The retry is bounded, fresh and clean.** After any proper run from a new manager, interrupted or not, while nobody
has a handle and no fault that is due is an interrupt, a call of the realm comes to a run of moves in which

- what is done over a connection is done twice at most;
- the second time only after a failure that may be mended by a new connection, and on a connection that was opened when
  the end of the first one was on record;
- after a connection could not be opened, nothing is done but to write messages;
- if a failure is swallowed, which is when it is reported, then afterwards no handle is idle, and the shared one has no
  connection. -/
theorem retry_bounded_fresh_and_clean {registry : Registry} {snapshot : Snapshot} {w : World} {m : Manager}
    (hcreate : ((Manager.create registry snapshot).perform w).1 = .ok m) {moves : List Move}
    (hmoves : (Desk.mk m []).All Desk.Proper moves) (hout : ((Desk.mk m []).run moves).out = [])
    (hcalm : ((Desk.mk m []).run moves).manager.Calm) {r : Realm}
    (hmanager : r.manager = ((Desk.mk m []).run moves).manager) {activity : Activity} (hcall : activity.IsCall) :
    (r.desk []).run (r.moves [] activity) = (Scene.step { realm := r } activity).realm.desk [] ∧
      (r.desk []).RetriesOnce (r.moves [] activity) := by
  have hinOrder := Desk.run_inOrder hcreate hmoves
  have hstocked := Desk.run_stocked hcreate hmoves
  rw [hout, ← hmanager] at hinOrder hstocked
  rw [← hmanager] at hcalm
  exact ⟨Realm.run_moves r [] hcall, Realm.retriesOnce_moves ⟨rfl, hinOrder, hstocked, hcalm⟩ activity⟩

/-! ### A run -/

/-- Two connections are idle when searches begin to fail. -/
def Move.worn : List Move :=
  [.acquire, .acquire, .release 0, .release 1,
    .outside World.ofService.directory
      [⟨some .search, 0, some (.client ⟨"LDAPSocketSendError", "broken pipe"⟩)⟩,
        ⟨some .search, 0, some (.client ⟨"LDAPSocketSendError", "broken pipe"⟩)⟩]]

/-- A login fails twice, on a connection that was idle and on a third one, and no connection is left. -/
theorem worn_connections_given_up :
    ∃ m, ((Manager.create {} ⟨0, .ofService 2⟩).perform World.ofService).1 = .ok m ∧
      ((Desk.mk m []).run Move.worn).manager.idle = [1, 0] ∧
      Move.uses (Realm.moves ⟨none, .plain, ((Desk.mk m []).run Move.worn).manager⟩ []
        (.authenticate (some "ada") (some "pearl"))) = 2 ∧
      (Scene.step { realm := ⟨none, .plain, ((Desk.mk m []).run Move.worn).manager⟩ }
        (.authenticate (some "ada") (some "pearl"))).realm.manager.idle = [] := by
  have hrun : (((Manager.create {} ⟨0, .ofService 2⟩).perform World.ofService).1.toOption.any fun m =>
      let d := (Desk.mk m []).run Move.worn
      let moves := Realm.moves ⟨none, .plain, d.manager⟩ [] (.authenticate (some "ada") (some "pearl"))
      decide ((Desk.mk m []).All Desk.Proper Move.worn) && decide (d.out = []) && decide (d.manager.idle = [1, 0]) &&
        decide (Move.uses moves = 2) && (d.manager.world.faults.all fun f => f.failure.all Failure.isOrdinary) &&
        moves.any fun
          | .write ⟨.error, .realm, _⟩ => true
          | _ => false) = true := by decide +kernel
  obtain ⟨m, hcreate, hrun⟩ := exists_ok_of_any hrun
  simp only [Bool.and_eq_true, List.all_eq_true, List.any_eq_true] at hrun
  obtain ⟨⟨⟨⟨⟨hmoves, hout⟩, hidle⟩, huses⟩, hordinary⟩, move, hmove, hreport⟩ := hrun
  have hcalm : ((Desk.mk m []).run Move.worn).manager.Calm := by
    intro f hf e he
    have hf := hordinary f hf
    rwa [he, Option.all_some] at hf
  obtain ⟨hstep, hretries⟩ := retry_bounded_fresh_and_clean hcreate (of_decide_eq_true hmoves)
    (of_decide_eq_true hout) hcalm (r := ⟨none, .plain, ((Desk.mk m []).run Move.worn).manager⟩) rfl
    (show Activity.IsCall (.authenticate (some "ada") (some "pearl")) from trivial)
  refine ⟨m, hcreate, of_decide_eq_true hidle, of_decide_eq_true huses, ?_⟩
  -- from here on it does not matter how the desk has come about
  generalize (Desk.mk m []).run Move.worn = d at *
  have hcleared := hretries.cleared ?_
  · rw [hstep] at hcleared
    exact hcleared.idle
  · -- the failure of the second attempt is reported
    split at hreport
    · exact ⟨_, hmove⟩
    · cases hreport

end DirectoryLogin

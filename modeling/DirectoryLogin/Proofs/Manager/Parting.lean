import DirectoryLogin.Proofs.Manager.Twins
/-!
# Answers of Two Runs

Two managers that are twins use their handles together, with a retry and with a report. Where the runs part, because one
of the passwords has no bytes to be compared, the connection is closed and the failure is reported; only an interrupt
can keep it from being reported.

- `Manager.Rests`: what is true of the mutex and the books between two uses.
- `Managed.attempt_together`, `Managed.answer_together`: a use, and an answer with its retry and its report.
-/

namespace DirectoryLogin

open Session (BreaksOff Coupled CoupledUnless EndsAlike Together)

variable {α : Type} {m m₁ m₂ m' : Manager} {id : HandleId} {e : Failure}

/-! ## §1 Managers at rest -/

/-- Between two uses no handle is out, and the mutex is free. -/
structure Manager.Rests (m : Manager) : Prop where
  inOrder : m.InOrder []
  isFree : m.isLocked = false

theorem Manager.Rests.ofWorld (hm : m.Rests) (w : World) : Manager.Rests { m with world := w } :=
  ⟨hm.inOrder.ofBooks rfl, hm.isFree⟩

namespace Managed

open Manager (Twins Rests)

theorem acquire_lends_of_rests (hm : m.Rests) : Lends m [] (acquire.perform m) := by
  refine acquire_lends hm.inOrder ?_
  rw [Manager.waits, hm.isFree, Bool.and_false]

/-- A handle that was used is still the only one that is out, and holds the mutex if anybody does. -/
theorem used_of_rests (hm : m.Rests) (hacquire : acquire.perform m = (.ok id, m₁)) (x : Handle → Exchange α) :
    ((onHandle id x).perform m₁).2.InOrder [id] ∧
      (((onHandle id x).perform m₁).2.isLocked && ((onHandle id x).perform m₁).2.isPooled id) = false := by
  have hlends := acquire_lends_of_rests hm
  rw [hacquire] at hlends
  cases hlends with
  | lent _ _ hm₁ hlock =>
    obtain ⟨hused, hlocked, -⟩ := onHandle_conserves hm₁ List.mem_cons_self x
    refine ⟨hused, ?_⟩
    rw [hlocked, (onHandle_sameBooks id x m₁).retains.isPooled (hm₁.known id List.mem_cons_self), hlock, hm.isFree]

/-- A manager is at rest again once the handle is back. -/
theorem GivesBack.rests {run : Except Failure Unit × Manager} (h : GivesBack m [id] id run)
    (hlock : (m.isLocked && m.isPooled id) = false) (hordinary : FailsOrdinarily run.1) :
    run.1 = .ok () ∧ run.2.Rests := by
  obtain ⟨hok, hlocked, -⟩ := h.ordinary hordinary
  have hinOrder := h.inOrder
  rw [List.erase_cons_head] at hinOrder
  exact ⟨hok, hinOrder, hlocked.trans hlock⟩

/-! ## §2 A use of a handle -/

theorem attempt_of_use_ok {x : Handle → Exchange α} {a : α} (hacquire : acquire.perform m = (.ok id, m₁))
    (huse : (onHandle id x).perform m₁ = (.ok a, m₂)) :
    (attempt x).perform m = (release id >>= fun _ => pure a).perform m₂ := by
  rw [attempt_eq, withConnection, Session.perform_bind_of_ok hacquire, Session.perform_bind, Session.perform_onFailure,
    huse]

theorem attempt_of_use_error {x : Handle → Exchange α} (hacquire : acquire.perform m = (.ok id, m₁))
    (huse : (onHandle id x).perform m₁ = (.error e, m₂)) :
    (attempt x).perform m = ((close id >>= fun _ => drainPool) >>= fun _ => throw e : Managed α).perform m₂ := by
  rw [attempt_eq, withConnection, Session.perform_bind_of_ok hacquire, Session.perform_bind, Session.perform_onFailure,
    huse]
  rcases habandon : (close id >>= fun _ => drainPool : Managed Unit).perform m₂ with ⟨e' | _, m₃⟩
  · rw [Session.perform_bind_of_error habandon]
    simp only [if_true, habandon]
  · rw [Session.perform_bind_of_ok habandon]
    simp only [if_true, habandon]
    rfl

/-- **A failure in a use** is the failure of the whole, unless giving the handle up is interrupted. -/
theorem attempt_fails (hm : m.Rests) {x : Handle → Exchange α} (hacquire : acquire.perform m = (.ok id, m₁))
    (huse : (onHandle id x).perform m₁ = (.error e, m₂)) :
    ∃ e', ((attempt x).perform m).1 = .error e' ∧ (e' = e ∨ e'.isOrdinary = false) := by
  obtain ⟨hused, hlock⟩ := used_of_rests hm hacquire x
  rw [huse] at hused hlock
  rw [attempt_of_use_error hacquire huse]
  have hback := abandon_givesBack hused List.mem_cons_self
  rcases habandon : (close id >>= fun _ => drainPool : Managed Unit).perform m₂ with ⟨e' | _, m₃⟩
  · -- giving the handle back fails only by an interrupt
    rw [Session.perform_bind_of_error habandon]
    rw [habandon] at hback
    refine ⟨e', rfl, .inr (Bool.eq_false_iff.mpr fun hordinary => ?_)⟩
    obtain ⟨hok, -⟩ := hback.rests hlock (.error hordinary)
    cases hok
  · -- otherwise it is the failure of the use that is passed on
    rw [Session.perform_bind_of_ok habandon]
    exact ⟨e, rfl, .inl rfl⟩

/-- **After a failure that is no interrupt**, the manager is at rest again. -/
theorem rests_of_attempt_error (hm : m.Rests) {x : Handle → Exchange α} (h : (attempt x).perform m = (.error e, m'))
    (hordinary : e.isOrdinary = true) : m'.Rests := by
  have hlends := acquire_lends_of_rests hm
  rcases hacquire : acquire.perform m with ⟨e₁ | id, m₁⟩
  · -- no handle was had
    rw [attempt_eq, withConnection, Session.perform_bind_of_error hacquire] at h
    cases h
    rw [hacquire] at hlends
    cases hlends with
    | failed _ _ hm' hrest =>
      obtain ⟨-, hlocked, -⟩ := hrest hordinary
      exact ⟨hm', hlocked.trans hm.isFree⟩
  obtain ⟨hused, hlock⟩ := used_of_rests hm hacquire x
  rcases huse : (onHandle id x).perform m₁ with ⟨e₁ | a, m₂⟩
  all_goals rw [huse] at hused hlock
  · rw [attempt_of_use_error hacquire huse] at h
    have hback := abandon_givesBack hused List.mem_cons_self
    rcases habandon : (close id >>= fun _ => drainPool : Managed Unit).perform m₂ with ⟨e' | _, m₃⟩
    all_goals rw [habandon] at hback
    · rw [Session.perform_bind_of_error habandon] at h
      cases h
      exact (hback.rests hlock (.error hordinary)).2
    · rw [Session.perform_bind_of_ok habandon] at h
      cases h
      exact (hback.rests hlock (.ok ())).2
  · -- giving a handle back fails by an interrupt only
    rw [attempt_of_use_ok hacquire huse] at h
    have hback := release_givesBack hused List.mem_cons_self
    rcases hrelease : (release id).perform m₂ with ⟨e' | _, m₃⟩
    all_goals rw [hrelease] at hback
    · rw [Session.perform_bind_of_error hrelease] at h
      cases h
      exact (hback.rests hlock (.error hordinary)).2
    · rw [Session.perform_bind_of_ok hrelease] at h
      cases h

end Managed

/-! ## §3 Two uses -/

/-- Only what can be caught is tried again. -/
theorem Failure.ordinary_of_isRetryable {e : Failure} (h : e.isRetryable = true) : e.isOrdinary = true := by
  cases e with
  | interrupt text => cases h
  | blocked => cases h
  | _ => rfl

/-- How a use ends after the runs have parted at this password: so, or by an interrupt of what is done about it. -/
def Password.Stops (p q : Password) (s : Settings) (e : Failure) : Prop :=
  s.userPassword ≠ none ∧ p.flaw? ≠ q.flaw? ∧
    ∃ flaw, p.flaw? = some flaw ∧ (e = unencodable flaw ∨ e.isOrdinary = false)

theorem Password.Parts.stops {p q : Password} {s : Settings} {e₀ e : Failure} (h : p.Parts q s e₀)
    (he : e = e₀ ∨ e.isOrdinary = false) : p.Stops q s e := by
  obtain ⟨hset, hflaws, flaw, hflaw, rfl⟩ := h
  exact ⟨hset, hflaws, flaw, hflaw, he⟩

/-- A password without bytes is not tried again. -/
theorem Password.Stops.not_isRetryable {p q : Password} {s : Settings} {e : Failure} (h : p.Stops q s e) :
    e.isRetryable = false := by
  obtain ⟨-, -, flaw, -, rfl | he⟩ := h
  · rfl
  · refine Bool.eq_false_iff.mpr fun hretry => ?_
    rw [Failure.ordinary_of_isRetryable hretry] at he
    cases he

namespace Managed

open Manager (Twins Rests)

variable {p q : Password} {s : Settings} {Q : α → α → Prop} {x y : Handle → Exchange α}
  (hx : ∀ h h', Handle.Twins p q s h h' → Exchange.LoginsTogether p q s Q (x h) (y h'))
include hx

theorem onHandle_together (id : HandleId) :
    CoupledUnless (p.Parts q s) (q.Parts p s) (Twins p q s) Q (onHandle id x) (onHandle id y) := by
  intro m m' h
  -- both managers have the handle, or none has it, and it is open in both or in none
  have hhandle := h.handles id
  rcases hid : m.handle? id with _ | handle
  all_goals rcases hid' : m'.handle? id with _ | handle'
  all_goals
    rw [hid, hid'] at hhandle
    cases hhandle
  · rw [perform_onHandle_of_none hid, perform_onHandle_of_none hid']
    exact .inl ⟨.error _, h⟩
  rename_i htwins
  rw [perform_onHandle_of_some hid, perform_onHandle_of_some hid', perform_onConnection, perform_onConnection]
  have hconnection := h.connection? id
  generalize m.connection? id = c, m'.connection? id = c' at hconnection
  cases hconnection with
  | none => exact .inl ⟨.error _, h⟩
  | some hc =>
    -- either the answers go together, or one of them breaks off
    rcases hx _ _ htwins ⟨_, m.world⟩ ⟨_, m'.world⟩ ⟨hc, h.world⟩ with ⟨hresult, hstate⟩ | hbreaks | hbreaks
    · exact .inl ⟨hresult, (h.setConnection id (.some hstate.connection)).ofWorld hstate.world⟩
    · exact .inr (.inl hbreaks)
    · exact .inr (.inr hbreaks)

/-- **Two uses** go together, unless they part. -/
theorem attempt_together (h : m.Twins p q s m') (hm : m.Rests) (hm' : m'.Rests) :
    Together (Twins p q s) Q ((attempt x).perform m) ((attempt y).perform m') ∨
      BreaksOff (p.Stops q s) ((attempt x).perform m).1 ∨ BreaksOff (q.Stops p s) ((attempt y).perform m').1 := by
  obtain ⟨hacquired, htaken⟩ := acquire_coupled m m' h
  rcases hacquire : acquire.perform m with ⟨result, m₁⟩
  rcases hacquire' : acquire.perform m' with ⟨result', m₁'⟩
  rw [hacquire, hacquire'] at hacquired htaken
  cases hacquired with
  | error e =>
    rw [attempt_eq, attempt_eq, withConnection, withConnection, Session.perform_bind_of_error hacquire,
      Session.perform_bind_of_error hacquire']
    exact .inl ⟨.error e, htaken⟩
  | @ok id _ hsame =>
    subst hsame
    have hused := onHandle_together hx id m₁ m₁' htaken
    rcases huse : (onHandle id x).perform m₁ with ⟨used, m₂⟩
    rcases huse' : (onHandle id y).perform m₁' with ⟨used', m₂'⟩
    rw [huse, huse'] at hused
    rcases hused with ⟨hresult, hstate⟩ | ⟨e, hfails, he⟩ | ⟨e, hfails, he⟩
    · left
      cases hresult with
      | ok hab =>
        rw [attempt_of_use_ok hacquire huse, attempt_of_use_ok hacquire' huse']
        exact Coupled.bind_same (release_coupled id) (fun _ => .pure hab) m₂ m₂' hstate
      | error e =>
        rw [attempt_of_use_error hacquire huse, attempt_of_use_error hacquire' huse']
        exact Coupled.bind_same (.bind_same (close_coupled id) fun _ => drainPool_coupled) (fun _ => .throw e) m₂ m₂'
          hstate
    -- one of the two breaks off, and then its attempt has failed
    · cases hfails
      obtain ⟨e', hfailed, hsame⟩ := attempt_fails hm hacquire huse
      exact .inr (.inl ⟨e', hfailed, he.stops hsame⟩)
    · cases hfails
      obtain ⟨e', hfailed, hsame⟩ := attempt_fails hm' hacquire' huse'
      exact .inr (.inr ⟨e', hfailed, he.stops hsame⟩)

/-- The same with a retry: after a failure that is no interrupt, both managers are at rest again. -/
theorem attemptTwice_together (description : String) (h : m.Twins p q s m') (hm : m.Rests) (hm' : m'.Rests) :
    Together (Twins p q s) Q ((attemptTwice description x).perform m) ((attemptTwice description y).perform m') ∨
      BreaksOff (p.Stops q s) ((attemptTwice description x).perform m).1 ∨
      BreaksOff (q.Stops p s) ((attemptTwice description y).perform m').1 := by
  have hfirst := attempt_together hx h hm hm'
  simp only [attemptTwice, Session.perform_rescue]
  rcases hrun : (attempt x).perform m with ⟨result, m₁⟩
  rcases hrun' : (attempt y).perform m' with ⟨result', m₁'⟩
  rw [hrun, hrun'] at hfirst
  rcases hfirst with ⟨hresult, hstate⟩ | ⟨e, hfails, he⟩ | ⟨e, hfails, he⟩
  · cases hresult with
    | ok hab => exact .inl ⟨.ok hab, hstate⟩
    | error e =>
      dsimp only
      by_cases hretry : e.isRetryable = true
      · have hordinary := Failure.ordinary_of_isRetryable hretry
        have hrest := rests_of_attempt_error hm hrun hordinary
        have hrest' := rests_of_attempt_error hm' hrun' hordinary
        obtain ⟨-, hsaid⟩ := onWorld_coupled (World.say_coupled .info .realm
          ("Directory " ++ description ++ " failed, retrying on a new connection: " ++ e.message)) m₁ m₁' hstate
        simp only [hretry, if_true]
        exact attempt_together hx hsaid (hrest.ofWorld _) (hrest'.ofWorld _)
      · simp only [hretry]
        exact .inl ⟨.error e, hstate⟩
  -- where they part at first, nothing is tried again
  · cases hfails
    simp only [he.not_isRetryable]
    exact .inr (.inl ⟨e, rfl, he⟩)
  · cases hfails
    simp only [he.not_isRetryable]
    exact .inr (.inr ⟨e, rfl, he⟩)

end Managed

/-! ## §4 Two answers -/

/-- How an answer ends after the runs have parted at this password: without a value and with the flaw in the journal, or
by an interrupt. -/
def Password.Tells (p q : Password) (s : Settings) (description : String) {β : Type}
    (result : Except Failure (Option β)) (journal : List Message) : Prop :=
  s.userPassword ≠ none ∧ p.flaw? ≠ q.flaw? ∧ ∃ flaw, p.flaw? = some flaw ∧
    (result = .ok none ∧ ⟨.error, .realm, "Directory " ++ description ++ " failed: " ++ flaw⟩ ∈ journal ∨
      ∃ e, result = .error e ∧ e.isOrdinary = false)

namespace Managed

open Manager (Twins Rests)

/-- A failure that remains is reported. -/
theorem answer_tells {p q : Password} {s : Settings} {x : Handle → Exchange (Option α)} {description : String}
    (h : BreaksOff (p.Stops q s) ((attemptTwice description x).perform m).1) :
    p.Tells q s description ((answer description x).perform m).1
      ((answer description x).perform m).2.world.journal := by
  obtain ⟨e, hfails, hset, hflaws, flaw, hflaw, he⟩ := h
  refine ⟨hset, hflaws, flaw, hflaw, ?_⟩
  rw [answer, Session.perform_rescue, ← Prod.eta ((attemptTwice description x).perform m), hfails]
  rcases he with rfl | he
  · exact .inl ⟨rfl, List.mem_append_right _ List.mem_cons_self⟩
  · simp only [he]
    exact .inr ⟨e, rfl, he⟩

/-- **Two answers** go together, and so do their reports, unless one of them tells what is wrong with its password. -/
theorem answer_together {p q : Password} {s : Settings} {Q : α → α → Prop} {x y : Handle → Exchange (Option α)}
    (hx : ∀ h h', Handle.Twins p q s h h' → Exchange.LoginsTogether p q s (Option.Rel Q) (x h) (y h'))
    (description : String) (h : m.Twins p q s m') (hm : m.Rests) (hm' : m'.Rests) :
    Together (Twins p q s) (Option.Rel Q) ((answer description x).perform m) ((answer description y).perform m') ∨
      p.Tells q s description ((answer description x).perform m).1
        ((answer description x).perform m).2.world.journal ∨
      q.Tells p s description ((answer description y).perform m').1
        ((answer description y).perform m').2.world.journal := by
  rcases attemptTwice_together hx description h hm hm' with ⟨hresult, hstate⟩ | hbreaks | hbreaks
  · left
    simp only [answer, Session.perform_rescue]
    rcases hrun : (attemptTwice description x).perform m with ⟨result, m₁⟩
    rcases hrun' : (attemptTwice description y).perform m' with ⟨result', m₁'⟩
    rw [hrun, hrun'] at hresult hstate
    cases hresult with
    | ok hab => exact ⟨.ok hab, hstate⟩
    | error e =>
      -- a failure that is answered is reported in both runs
      dsimp only
      by_cases hordinary : e.isOrdinary = true
      · simp only [hordinary, if_true]
        exact Coupled.bind_same (onWorld_coupled (World.say_coupled _ _ _)) (fun _ => .pure .none) m₁ m₁' hstate
      · simp only [hordinary]
        exact ⟨.error e, hstate⟩
  · exact .inr (.inl (answer_tells hbreaks))
  · exact .inr (.inr (answer_tells hbreaks))

end Managed

end DirectoryLogin

import DirectoryLogin.Proofs.Session.Coupling
/-!
# Sessions that Commute with a Change

A step commutes with a change of the state if it makes no difference whether the state is changed before the step or
after it: the step ends the same way, and leaves the changed state. This is asked for where a condition holds, which
the step has to keep.

So a step commutes when it is coupled with itself, over the states and what the change makes of them, and the rules for
putting steps together are those of `Session.Coupling`. A step that looks at the state commutes if what it does with it
is the same for the changed state.
-/

namespace DirectoryLogin.Session

variable {σ τ α β : Type}

/-- From every state with `I`, the step does the same as from the changed state, up to the change. -/
def Commutes (f : σ → σ) (I : σ → Prop) (x : Session σ α) : Prop :=
  ∀ s, I s → x.perform (f s) = ((x.perform s).1, f (x.perform s).2) ∧ I (x.perform s).2

/-- The state before the change and after it. -/
def Changed (f : σ → σ) (I : σ → Prop) (s t : σ) : Prop :=
  I s ∧ t = f s

variable {f : σ → σ} {I : σ → Prop} {x : Session σ α}

/-- To commute with a change is to run alongside the changed state. -/
theorem commutes_iff_coupled : Commutes f I x ↔ Coupled (Changed f I) Eq x x := by
  constructor
  · rintro h s _ ⟨hs, rfl⟩
    obtain ⟨hchanged, hs'⟩ := h s hs
    rw [hchanged]
    exact ⟨.of_eq (fun _ _ => rfl) rfl, hs', rfl⟩
  · intro h s hs
    obtain ⟨hresult, hs', hstate⟩ := h s (f s) ⟨hs, rfl⟩
    exact ⟨Prod.ext hresult.eq.symm hstate, hs'⟩

namespace Commutes

theorem coupled (hx : Commutes f I x) : Coupled (Changed f I) Eq x x :=
  commutes_iff_coupled.mp hx

theorem of_perform (hx : Commutes f I x) {s s' : σ} {result : Except Failure α} (h : x.perform s = (result, s'))
    (hs : I s) : x.perform (f s) = (result, f s') ∧ I s' := by
  have hrun := hx s hs
  rwa [h] at hrun

theorem pure (a : α) : Commutes f I (pure a : Session σ α) :=
  commutes_iff_coupled.mpr (.pure rfl)

theorem throw (e : Failure) : Commutes f I (throw e : Session σ α) :=
  commutes_iff_coupled.mpr (.throw e)

theorem ofExcept (a : Except Failure α) : Commutes f I (ofExcept a : Session σ α) :=
  commutes_iff_coupled.mpr (.ofExcept_same a)

theorem modify {g : σ → σ} (h : ∀ s, I s → g (f s) = f (g s)) (hI : ∀ s, I s → I (g s)) :
    Commutes f I (modify g : Session σ PUnit) := by
  refine commutes_iff_coupled.mpr (.modify ?_)
  rintro s _ ⟨hs, rfl⟩
  exact ⟨hI s hs, h s hs⟩

theorem bind {k : α → Session σ β} (hx : Commutes f I x) (hk : ∀ a, Commutes f I (k a)) : Commutes f I (x >>= k) :=
  commutes_iff_coupled.mpr (.bind_same hx.coupled fun a => (hk a).coupled)

/-- What follows a look at the state may be judged in that very state. -/
theorem bind_get_at {k : σ → Session σ β}
    (h : ∀ s, I s → (k (f s)).perform (f s) = (((k s).perform s).1, f ((k s).perform s).2) ∧ I ((k s).perform s).2) :
    Commutes f I (get >>= k) := by
  intro s hs
  rw [perform_bind_of_ok (perform_get s), perform_bind_of_ok (perform_get (f s))]
  exact h s hs

/-- What follows a look at the state must not depend on the change. -/
theorem bind_get {k : σ → Session σ β} (hsame : ∀ s, I s → k (f s) = k s) (hk : ∀ s, Commutes f I (k s)) :
    Commutes f I (get >>= k) := by
  refine bind_get_at fun s hs => ?_
  rw [hsame s hs]
  exact hk s s hs

/-- The state is replaced by one that is made of it, and what follows looks at nothing that the change touches. -/
theorem bind_get_set {g : σ → σ} {k : σ → PUnit → Session σ β} (hg : ∀ s, I s → g (f s) = f (g s))
    (hI : ∀ s, I s → I (g s)) (hsame : ∀ s, I s → k (f s) = k s) (hk : ∀ s, Commutes f I (k s PUnit.unit)) :
    Commutes f I (get >>= fun s => set (g s) >>= k s) := by
  refine bind_get_at fun s hs => ?_
  rw [perform_bind_of_ok (perform_set s _), perform_bind_of_ok (perform_set (f s) _), hsame s hs, hg s hs]
  exact hk s (g s) (hI s hs)

theorem rescue {handler? : Failure → Option (Session σ α)} (hx : Commutes f I x)
    (hh : ∀ e y, handler? e = some y → Commutes f I y) : Commutes f I (x.rescue handler?) := by
  refine commutes_iff_coupled.mpr (.rescue hx.coupled fun e => ?_)
  rcases hy : handler? e with _ | y
  · exact .none
  · exact .some (hh e y hy).coupled

theorem rescue_if {p : Failure → Bool} {y : Failure → Session σ α} (hx : Commutes f I x)
    (hy : ∀ e, p e = true → Commutes f I (y e)) :
    Commutes f I (x.rescue fun e => if p e then some (y e) else none) :=
  commutes_iff_coupled.mpr (.rescue_if hx.coupled fun e hp => (hy e hp).coupled)

theorem onFailure {p : Failure → Bool} {after : Failure → Session σ Unit} (hx : Commutes f I x)
    (ha : ∀ e, Commutes f I (after e)) : Commutes f I (x.onFailure p after) :=
  commutes_iff_coupled.mpr (.onFailure hx.coupled fun e => (ha e).coupled)

theorem ensure {after : Session σ Unit} (hx : Commutes f I x) (ha : Commutes f I after) :
    Commutes f I (x.ensure after) :=
  commutes_iff_coupled.mpr (.ensure hx.coupled ha.coupled)

theorem forM {k : α → Session σ PUnit} (hk : ∀ a, Commutes f I (k a)) (items : List α) :
    Commutes f I (items.forM k) :=
  commutes_iff_coupled.mpr (.forM (fun a => (hk a).coupled) items)

/-- A step on a part of the state, where changing the whole changes the part. -/
theorem within {g : τ → τ} {J : τ → Prop} {get : τ → σ} {set : σ → τ → τ} (hx : Commutes f I x)
    (hget : ∀ t, get (g t) = f (get t)) (hset : ∀ s t, set (f s) (g t) = g (set s t)) (hI : ∀ t, J t → I (get t))
    (hJ : ∀ s t, J t → I s → J (set s t)) : Commutes g J (within get set x) := by
  refine commutes_iff_coupled.mpr (.within hx.coupled ?_ ?_)
  · rintro t _ ⟨ht, rfl⟩
    exact ⟨hI t ht, hget t⟩
  · rintro t _ s _ ⟨ht, rfl⟩ ⟨hs, rfl⟩
    exact ⟨hJ s t ht hs, hset s t⟩

end Commutes

end DirectoryLogin.Session

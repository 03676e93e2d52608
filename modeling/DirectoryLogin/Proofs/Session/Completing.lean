import DirectoryLogin.Proofs.Programs
/-!
# Sessions that Complete

A step completes under a condition on states if, begun where the condition holds, it ends with a value or with a failure
that can be caught, and the condition holds afterwards: it is confined to failures that can be caught. So the ways of
putting steps together keep this.
-/

namespace DirectoryLogin.Session

variable {σ τ α β : Type}

/-- No run of the step from a state with `I` is interrupted, and all of them lead to states with `I`. -/
def Completes (I : σ → Prop) (x : Session σ α) : Prop :=
  ∀ s, I s → FailsOrdinarily (x.perform s).1 ∧ I (x.perform s).2

namespace Completes

variable {I : σ → Prop} {x : Session σ α}

theorem pure (a : α) : Completes I (pure a : Session σ α) :=
  Confines.pure a

theorem throw {e : Failure} (he : e.isOrdinary = true) : Completes I (throw e : Session σ α) :=
  Confines.throw he

theorem ofExcept {a : Except Failure α} (ha : FailsOrdinarily a) : Completes I (ofExcept a : Session σ α) :=
  Confines.ofExcept ha

theorem get : Completes I (get : Session σ σ) :=
  Confines.get

theorem modify {f : σ → σ} (h : ∀ s, I s → I (f s)) : Completes I (modify f : Session σ PUnit) :=
  Confines.modify h

theorem bind {f : α → Session σ β} (hx : Completes I x) (hf : ∀ a, Completes I (f a)) : Completes I (x >>= f) :=
  Confines.bind hx hf

theorem bind_get {f : σ → Session σ β}
    (h : ∀ s, I s → FailsOrdinarily ((f s).perform s).1 ∧ I ((f s).perform s).2) :
    Completes I (MonadState.get >>= f) :=
  Confines.bind_get h

theorem rescue {handler? : Failure → Option (Session σ α)} (hx : Completes I x)
    (hh : ∀ e y, handler? e = some y → Completes I y) : Completes I (x.rescue handler?) :=
  Confines.rescue hx (fun _ he _ => he) hh

theorem rescue_if {p : Failure → Bool} {y : Failure → Session σ α} (hx : Completes I x)
    (hy : ∀ e, p e = true → Completes I (y e)) : Completes I (x.rescue fun e => if p e then some (y e) else none) := by
  refine rescue hx fun e z hz => ?_
  split at hz
  · cases hz
    exact hy e ‹_›
  · cases hz

theorem onFailure {p : Failure → Bool} {after : Failure → Session σ Unit} (hx : Completes I x)
    (ha : ∀ e, Completes I (after e)) : Completes I (x.onFailure p after) :=
  Confines.onFailure hx ha

theorem forM {f : α → Session σ PUnit} (hf : ∀ a, Completes I (f a)) (items : List α) : Completes I (items.forM f) :=
  Confines.forM hf items

/-- A step on a part of the state. -/
theorem within {J : τ → Prop} {get : τ → σ} {set : σ → τ → τ} (hx : Completes I x) (hget : ∀ t, J t → I (get t))
    (hset : ∀ s t, J t → I s → J (set s t)) : Completes J (within get set x) :=
  Confines.within hx hget hset

end Completes

end DirectoryLogin.Session

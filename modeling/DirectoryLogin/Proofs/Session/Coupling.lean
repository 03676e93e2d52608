import DirectoryLogin.Proofs.Session.Respects
/-!
# Sessions Side by Side

Two steps are coupled when, run from states that stand in a relation, they end alike and leave states that stand in it
again. To end alike is to fail with the same failure, or to give values that stand in a relation of their own. A
relation that forgets a part of the state makes this a statement about what that part has no influence on.

The rules for putting steps together are those of `Session.Respects`, with two steps in the place of one.

- `Session.Coupled`: steps that go together from related states.
- `Session.CoupledUnless`: the same, up to failures at which one of them may break off.
-/

namespace DirectoryLogin.Session

variable {σ τ α β : Type}

/-! ## §1 Ending alike -/

/-- The values match, or the failures are the same. -/
inductive EndsAlike (Q : α → α → Prop) : Except Failure α → Except Failure α → Prop
  | ok {a b : α} (h : Q a b) : EndsAlike Q (.ok a) (.ok b)
  | error (e : Failure) : EndsAlike Q (.error e) (.error e)

namespace EndsAlike

variable {Q : α → α → Prop} {x y : Except Failure α}

/-- What matches itself ends like itself. -/
theorem of_eq (h : ∀ a, x = .ok a → Q a a) (hxy : x = y) : EndsAlike Q x y := by
  subst hxy
  rcases x with e | a
  · exact .error e
  · exact .ok (h a rfl)

/-- Where only the same values match, the results are the same. -/
theorem eq_of (h : EndsAlike Q x y) (hQ : ∀ a b, Q a b → a = b) : x = y := by
  rcases h with h | e
  · rw [hQ _ _ h]
  · rfl

theorem eq (h : EndsAlike Eq x y) : x = y :=
  h.eq_of fun _ _ => id

theorem map {P : β → β → Prop} {f g : α → β} (h : EndsAlike Q x y) (hfg : ∀ a b, Q a b → P (f a) (g b)) :
    EndsAlike P (x.map f) (y.map g) := by
  rcases h with h | e
  · exact .ok (hfg _ _ h)
  · exact .error e

end EndsAlike

/-- Two runs end alike and leave related states. -/
structure Together (R : σ → σ → Prop) (Q : α → α → Prop) (run run' : Except Failure α × σ) : Prop where
  result : EndsAlike Q run.1 run'.1
  state : R run.2 run'.2

/-! ## §2 Coupled steps -/

/-- From related states, the two steps end alike and leave related states. -/
def Coupled (R : σ → σ → Prop) (Q : α → α → Prop) (x y : Session σ α) : Prop :=
  ∀ s t, R s t → Together R Q (x.perform s) (y.perform t)

/-- What follows two runs that went together goes on together. -/
theorem Together.bind {R : σ → σ → Prop} {P : α → α → Prop} {Q : β → β → Prop} {x y : Session σ α}
    {f g : α → Session σ β} {s t : σ} (h : Together R P (x.perform s) (y.perform t))
    (hf : ∀ a b, P a b → Coupled R Q (f a) (g b)) : Together R Q ((x >>= f).perform s) ((y >>= g).perform t) := by
  obtain ⟨hresult, hstate⟩ := h
  rw [perform_bind, perform_bind]
  rcases hrun : x.perform s with ⟨result, s'⟩
  rcases hrun' : y.perform t with ⟨result', t'⟩
  rw [hrun, hrun'] at hresult hstate
  dsimp only at hresult hstate
  -- either both first steps give a value, or both sequences end here
  rcases hresult with h | e
  · exact hf _ _ h s' t' hstate
  · exact ⟨.error e, hstate⟩

namespace Coupled

variable {R : σ → σ → Prop} {P : α → α → Prop} {Q : β → β → Prop} {x y : Session σ α}

theorem pure {a b : α} (h : P a b) : Coupled R P (pure a) (pure b) :=
  fun _ _ hst => ⟨.ok h, hst⟩

theorem throw (e : Failure) : Coupled R P (throw e) (throw e) :=
  fun _ _ hst => ⟨.error e, hst⟩

theorem ofExcept {a b : Except Failure α} (h : EndsAlike P a b) : Coupled R P (ofExcept a) (ofExcept b) :=
  fun _ _ hst => ⟨h, hst⟩

/-- The same computation in both steps. -/
theorem ofExcept_same (a : Except Failure α) : Coupled R Eq (Session.ofExcept a) (Session.ofExcept a) :=
  ofExcept (.of_eq (fun _ _ => rfl) rfl)

theorem modify {f g : σ → σ} (h : ∀ s t, R s t → R (f s) (g t)) :
    Coupled R Eq (modify f : Session σ PUnit) (modify g) :=
  fun s t hst => ⟨.ok rfl, h s t hst⟩

theorem bind {f g : α → Session σ β} (hx : Coupled R P x y) (hf : ∀ a b, P a b → Coupled R Q (f a) (g b)) :
    Coupled R Q (x >>= f) (y >>= g) :=
  fun s t hst => (hx s t hst).bind hf

/-- The first steps give the same value. -/
theorem bind_same {f g : α → Session σ β} (hx : Coupled R Eq x y) (hf : ∀ a, Coupled R Q (f a) (g a)) :
    Coupled R Q (x >>= f) (y >>= g) :=
  bind hx fun a _ hab => hab ▸ hf a

/-- What follows a look at the states may be judged in those very states. -/
theorem bind_get_at {f g : σ → Session σ β}
    (h : ∀ s t, R s t → Together R Q ((f s).perform s) ((g t).perform t)) : Coupled R Q (get >>= f) (get >>= g) := by
  intro s t hst
  rw [perform_bind_of_ok (perform_get s), perform_bind_of_ok (perform_get t)]
  exact h s t hst

/-- What follows a look at the states knows that they are related. -/
theorem bind_get {f g : σ → Session σ β} (h : ∀ s t, R s t → Coupled R Q (f s) (g t)) :
    Coupled R Q (get >>= f) (get >>= g) :=
  bind_get_at fun s t hst => h s t hst s t hst

theorem rescue {handler? handler'? : Failure → Option (Session σ α)} (hx : Coupled R P x y)
    (hh : ∀ e, Option.Rel (Coupled R P) (handler? e) (handler'? e)) :
    Coupled R P (x.rescue handler?) (y.rescue handler'?) := by
  intro s t hst
  obtain ⟨hresult, hstate⟩ := hx s t hst
  rw [perform_rescue, perform_rescue]
  rcases hrun : x.perform s with ⟨result, s'⟩
  rcases hrun' : y.perform t with ⟨result', t'⟩
  rw [hrun, hrun'] at hresult hstate
  dsimp only at hresult hstate
  rcases hresult with h | e
  · exact ⟨.ok h, hstate⟩
  · -- the failure is the same one, so either both steps handle it or neither does
    have hhandlers := hh e
    dsimp only
    generalize handler? e = z, handler'? e = z' at hhandlers
    cases hhandlers with
    | some hz => exact hz s' t' hstate
    | none => exact ⟨.error e, hstate⟩

/-- The same handler, for the same failures. -/
theorem rescue_if {p : Failure → Bool} {z z' : Failure → Session σ α} (hx : Coupled R P x y)
    (hz : ∀ e, p e = true → Coupled R P (z e) (z' e)) :
    Coupled R P (x.rescue fun e => if p e then some (z e) else none)
      (y.rescue fun e => if p e then some (z' e) else none) := by
  refine rescue hx fun e => ?_
  split
  · exact .some (hz e ‹_›)
  · exact .none

theorem onFailure {p : Failure → Bool} {after after' : Failure → Session σ Unit} (hx : Coupled R P x y)
    (ha : ∀ e, Coupled R Eq (after e) (after' e)) : Coupled R P (x.onFailure p after) (y.onFailure p after') :=
  rescue_if hx fun e _ => bind_same (ha e) fun _ => throw e

theorem ensure {after after' : Session σ Unit} (hx : Coupled R P x y) (ha : Coupled R Eq after after') :
    Coupled R P (x.ensure after) (y.ensure after') := by
  intro s t hst
  obtain ⟨hresult, hstate⟩ := hx s t hst
  obtain ⟨hafter, hstate'⟩ := ha _ _ hstate
  rw [perform_ensure, perform_ensure]
  rcases hrun : after.perform (x.perform s).2 with ⟨result, s'⟩
  rcases hrun' : after'.perform (y.perform t).2 with ⟨result', t'⟩
  rw [hrun, hrun'] at hafter hstate'
  dsimp only at hafter hstate'
  rcases hafter with _ | e
  · exact ⟨hresult, hstate'⟩
  · exact ⟨.error e, hstate'⟩

theorem forM {f g : α → Session σ PUnit} (hf : ∀ a, Coupled R Eq (f a) (g a)) (items : List α) :
    Coupled R Eq (items.forM f) (items.forM g) := by
  induction items with
  | nil => exact pure rfl
  | cons a rest ih => exact bind_same (hf a) fun _ => ih

/-- Steps on a part of the states. -/
theorem within {S : τ → τ → Prop} {get : τ → σ} {set : σ → τ → τ} (hx : Coupled R P x y)
    (hget : ∀ s t, S s t → R (get s) (get t)) (hset : ∀ s t a b, S s t → R a b → S (set a s) (set b t)) :
    Coupled S P (within get set x) (within get set y) := by
  intro s t hst
  obtain ⟨hresult, hstate⟩ := hx _ _ (hget s t hst)
  exact ⟨hresult, hset s t _ _ hst hstate⟩

end Coupled

/-! ## §3 Steps of which one may break off -/

/-- A step has ended with one of these failures. -/
def BreaksOff (E : Failure → Prop) (result : Except Failure α) : Prop :=
  ∃ e, result = .error e ∧ E e

/-- From related states, the two steps end alike and leave related states, unless one of them breaks off. -/
def CoupledUnless (E E' : Failure → Prop) (R : σ → σ → Prop) (Q : α → α → Prop) (x y : Session σ α) : Prop :=
  ∀ s t, R s t →
    Together R Q (x.perform s) (y.perform t) ∨ BreaksOff E (x.perform s).1 ∨ BreaksOff E' (y.perform t).1

theorem Coupled.unless {E E' : Failure → Prop} {R : σ → σ → Prop} {Q : α → α → Prop} {x y : Session σ α}
    (h : Coupled R Q x y) : CoupledUnless E E' R Q x y :=
  fun s t hst => .inl (h s t hst)

namespace CoupledUnless

variable {E E' : Failure → Prop} {R : σ → σ → Prop} {P : α → α → Prop} {Q : β → β → Prop} {x y : Session σ α}

theorem bind {f g : α → Session σ β} (hx : CoupledUnless E E' R P x y)
    (hf : ∀ a b, P a b → CoupledUnless E E' R Q (f a) (g b)) : CoupledUnless E E' R Q (x >>= f) (y >>= g) := by
  intro s t hst
  rcases hx s t hst with ⟨hresult, hstate⟩ | ⟨e, hfails, he⟩ | ⟨e, hfails, he⟩
  · rw [perform_bind, perform_bind]
    rcases hrun : x.perform s with ⟨result, s'⟩
    rcases hrun' : y.perform t with ⟨result', t'⟩
    rw [hrun, hrun'] at hresult hstate
    dsimp only at hresult hstate
    rcases hresult with h | e
    · exact hf _ _ h s' t' hstate
    · exact .inl ⟨.error e, hstate⟩
  -- what follows a step that breaks off is not reached
  · refine .inr (.inl ⟨e, ?_, he⟩)
    rw [perform_bind_of_error (Prod.ext hfails rfl)]
  · refine .inr (.inr ⟨e, ?_, he⟩)
    rw [perform_bind_of_error (Prod.ext hfails rfl)]

/-- The first steps give the same value. -/
theorem bind_same {f g : α → Session σ β} (hx : CoupledUnless E E' R Eq x y)
    (hf : ∀ a, CoupledUnless E E' R Q (f a) (g a)) : CoupledUnless E E' R Q (x >>= f) (y >>= g) :=
  bind hx fun a _ hab => hab ▸ hf a

/-- The same handler, for failures at which no step breaks off. -/
theorem rescue_if {p : Failure → Bool} {z z' : Failure → Session σ α} (hx : CoupledUnless E E' R P x y)
    (hz : ∀ e, p e = true → CoupledUnless E E' R P (z e) (z' e)) (hE : ∀ e, E e → p e = false)
    (hE' : ∀ e, E' e → p e = false) :
    CoupledUnless E E' R P (x.rescue fun e => if p e then some (z e) else none)
      (y.rescue fun e => if p e then some (z' e) else none) := by
  intro s t hst
  rw [perform_rescue, perform_rescue]
  rcases hx s t hst with ⟨hresult, hstate⟩ | ⟨e, hfails, he⟩ | ⟨e, hfails, he⟩
  · rcases hrun : x.perform s with ⟨result, s'⟩
    rcases hrun' : y.perform t with ⟨result', t'⟩
    rw [hrun, hrun'] at hresult hstate
    dsimp only at hresult hstate
    -- the answers go together, so both failures are handled or neither is
    rcases hresult with h | e
    · exact .inl ⟨.ok h, hstate⟩
    · dsimp only
      by_cases hp : p e = true
      · simp only [hp, if_true]
        exact hz e hp s' t' hstate
      · simp only [hp]
        exact .inl ⟨.error e, hstate⟩
  · -- what breaks off is not handled
    refine .inr (.inl ⟨e, ?_, he⟩)
    rw [← Prod.eta (x.perform s), hfails]
    simp only [hE e he]
    rfl
  · refine .inr (.inr ⟨e, ?_, he⟩)
    rw [← Prod.eta (y.perform t), hfails]
    simp only [hE' e he]
    rfl

end CoupledUnless

end DirectoryLogin.Session

import DirectoryLogin.Proofs.Session.Respects
/-!
# Failures of Computations and Sessions

Which failures a computation, or a step, may end with. As with `Session.Respects`, the ways of putting steps together
keep this, so that the failures of a long program are read off its parts. A failure that is handled does not count.

The failures of a step may depend on the state. So a condition on states goes with them that every step keeps, such as
one on the faults that are due.
-/

namespace DirectoryLogin

variable {α β : Type}

/-! ## §1 Computations -/

/-- A computation that fails with failures of one kind only. -/
def FailsAs (P : Failure → Prop) (x : Except Failure α) : Prop :=
  ∀ e, x = .error e → P e

namespace FailsAs

variable {P Q : Failure → Prop} {x : Except Failure α}

theorem ok (a : α) : FailsAs P (.ok a) :=
  fun _ h => nomatch h

theorem error {e : Failure} (he : P e) : FailsAs P (.error e : Except Failure α) := by
  intro e' h
  cases h
  exact he

theorem mono (hx : FailsAs P x) (h : ∀ e, P e → Q e) : FailsAs Q x :=
  fun e he => h e (hx e he)

theorem bind {f : α → Except Failure β} (hx : FailsAs P x) (hf : ∀ a, FailsAs P (f a)) : FailsAs P (x >>= f) := by
  rcases x with e | a
  · exact error (hx e rfl)
  · exact hf a

theorem map (hx : FailsAs P x) (f : α → β) : FailsAs P (x.map f) := by
  rcases x with e | a
  · exact error (hx e rfl)
  · exact ok (f a)

theorem mapM {f : α → Except Failure β} (hf : ∀ a, FailsAs P (f a)) (items : List α) : FailsAs P (items.mapM f) := by
  induction items with
  | nil => exact ok []
  | cons a rest ih =>
    rw [List.mapM_cons]
    exact (hf a).bind fun b => ih.bind fun bs => ok (b :: bs)

theorem ite {c : Prop} [Decidable c] {y : Except Failure α} (hx : FailsAs P x) (hy : FailsAs P y) :
    FailsAs P (if c then x else y) := by
  split
  · exact hx
  · exact hy

end FailsAs

/-- What two steps come to is what the second one makes of what the first one came to. -/
theorem exists_of_bind_eq_ok {x : Except Failure α} {f : α → Except Failure β} {b : β}
    (h : x >>= f = .ok b) : ∃ a, x = .ok a ∧ f a = .ok b := by
  cases x with
  | error e => cases h
  | ok a => exact ⟨a, rfl, h⟩

/-! ## §2 Steps -/

namespace Session

variable {σ τ : Type}

/-- Begun in a state with `I`, the step fails with failures that satisfy `P` only, and it leads to a state with `I`. -/
def Confines (I : σ → Prop) (P : Failure → Prop) (x : Session σ α) : Prop :=
  ∀ s, I s → FailsAs P (x.perform s).1 ∧ I (x.perform s).2

namespace Confines

variable {I : σ → Prop} {P Q : Failure → Prop} {x : Session σ α}

theorem of_perform (hx : Confines I P x) {s s' : σ} {result : Except Failure α} (h : x.perform s = (result, s'))
    (hs : I s) : FailsAs P result ∧ I s' := by
  have hrun := hx s hs
  rwa [h] at hrun

theorem mono (hx : Confines I P x) (h : ∀ e, P e → Q e) : Confines I Q x :=
  fun s hs => ⟨(hx s hs).1.mono h, (hx s hs).2⟩

theorem pure (a : α) : Confines I P (pure a : Session σ α) :=
  fun _ hs => ⟨.ok a, hs⟩

theorem throw {e : Failure} (he : P e) : Confines I P (throw e : Session σ α) :=
  fun _ hs => ⟨.error he, hs⟩

theorem ofExcept {a : Except Failure α} (ha : FailsAs P a) : Confines I P (ofExcept a : Session σ α) :=
  fun _ hs => ⟨ha, hs⟩

theorem get : Confines I P (get : Session σ σ) :=
  fun s hs => ⟨.ok s, hs⟩

theorem modify {f : σ → σ} (h : ∀ s, I s → I (f s)) : Confines I P (modify f : Session σ PUnit) :=
  fun s hs => ⟨FailsAs.ok PUnit.unit, h s hs⟩

/-- Steps one after the other; the second may rely on what the first one's value says. -/
theorem bind_of_value {f : α → Session σ β} (hx : Confines I P x)
    (hf : ∀ s a s', x.perform s = (.ok a, s') → I s' → FailsAs P ((f a).perform s').1 ∧ I ((f a).perform s').2) :
    Confines I P (x >>= f) := by
  intro s hs
  rcases hrun : x.perform s with ⟨e | a, s'⟩
  all_goals obtain ⟨hfails, hs'⟩ := hx.of_perform hrun hs
  · rw [perform_bind_of_error hrun]
    exact ⟨.error (hfails e rfl), hs'⟩
  · rw [perform_bind_of_ok hrun]
    exact hf s a s' hrun hs'

theorem bind {f : α → Session σ β} (hx : Confines I P x) (hf : ∀ a, Confines I P (f a)) : Confines I P (x >>= f) :=
  bind_of_value hx fun _ a s' _ hs' => hf a s' hs'

theorem bind_get {f : σ → Session σ β}
    (h : ∀ s, I s → FailsAs P ((f s).perform s).1 ∧ I ((f s).perform s).2) :
    Confines I P (MonadState.get >>= f) := by
  intro s hs
  rw [perform_bind_of_ok (perform_get s)]
  exact h s hs

/-- Failures that are handled do not count, but those of their handlers do. -/
theorem rescue {handler? : Failure → Option (Session σ α)} (hx : Confines I Q x)
    (hpass : ∀ e, Q e → handler? e = none → P e) (hh : ∀ e y, handler? e = some y → Confines I P y) :
    Confines I P (x.rescue handler?) := by
  intro s hs
  rw [perform_rescue]
  rcases hrun : x.perform s with ⟨e | a, s'⟩
  all_goals obtain ⟨hfails, hs'⟩ := hx.of_perform hrun hs
  · rcases hy : handler? e with _ | y
    · simp only [hy]
      exact ⟨.error (hpass e (hfails e rfl) hy), hs'⟩
    · simp only [hy]
      exact hh e y hy s' hs'
  · exact ⟨.ok a, hs'⟩

theorem onFailure {p : Failure → Bool} {after : Failure → Session σ Unit} (hx : Confines I P x)
    (ha : ∀ e, Confines I P (after e)) : Confines I P (x.onFailure p after) := by
  intro s hs
  rw [perform_onFailure]
  rcases hrun : x.perform s with ⟨e | a, s'⟩
  all_goals obtain ⟨hfails, hs'⟩ := hx.of_perform hrun hs
  · -- the failure that is treated may be overtaken by one of the treatment
    by_cases hp : p e = true
    · simp only [hp, if_true]
      rcases hafter : (after e).perform s' with ⟨e' | _, s''⟩
      all_goals obtain ⟨hfails', hs''⟩ := (ha e).of_perform hafter hs'
      · exact ⟨.error (hfails' e' rfl), hs''⟩
      · exact ⟨.error (hfails e rfl), hs''⟩
    · simp only [hp]
      exact ⟨.error (hfails e rfl), hs'⟩
  · exact ⟨.ok a, hs'⟩

theorem ensure {after : Session σ Unit} (hx : Confines I P x) (ha : Confines I P after) :
    Confines I P (x.ensure after) := by
  intro s hs
  rw [perform_ensure]
  obtain ⟨hfails, hs'⟩ := hx s hs
  rcases hafter : after.perform (x.perform s).2 with ⟨e | _, s''⟩
  all_goals obtain ⟨hfails', hs''⟩ := ha.of_perform hafter hs'
  · exact ⟨.error (hfails' e rfl), hs''⟩
  · exact ⟨hfails, hs''⟩

theorem forM {f : α → Session σ PUnit} (hf : ∀ a, Confines I P (f a)) (items : List α) :
    Confines I P (items.forM f) := by
  induction items with
  | nil => exact pure _
  | cons a rest ih => exact bind (hf a) fun _ => ih

/-- A step on a part of the state. -/
theorem within {J : τ → Prop} {get : τ → σ} {set : σ → τ → τ} (hx : Confines I P x) (hget : ∀ t, J t → I (get t))
    (hset : ∀ s t, J t → I s → J (set s t)) : Confines J P (within get set x) := by
  intro t ht
  obtain ⟨hfails, hs⟩ := hx (get t) (hget t ht)
  exact ⟨hfails, hset _ t ht hs⟩

end Confines

end Session

end DirectoryLogin

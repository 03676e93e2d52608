import DirectoryLogin.Session
import Mathlib.Order.Defs.Unbundled
/-!
# Relations Kept by Sessions

A step respects a relation when every state it is run from stands in the relation to the state it leaves behind,
whether it gives a value or fails. For a reflexive and transitive relation the ways of putting steps together keep
this, so that a property of a long program is read off its shortest parts.

The rules are stated once here, so that later proofs never open the monad.
-/

namespace DirectoryLogin.Session

variable {σ τ α β : Type}

/-! ## §1 Running combined steps -/

/-- Steps that do the same to every state are the same. -/
theorem ext {x y : Session σ α} (h : ∀ s, x.perform s = y.perform s) : x = y :=
  funext h

/-- A handled failure continues with its handler, in the state that the failure left. -/
theorem perform_rescue (x : Session σ α) (handler? : Failure → Option (Session σ α)) (s : σ) :
    (x.rescue handler?).perform s =
      match x.perform s with
      | (.error e, s') =>
        match handler? e with
        | some y => y.perform s'
        | none => (.error e, s')
      | (.ok a, s') => (.ok a, s') := rfl

/-- What is run afterwards changes the result only by failing itself. -/
theorem perform_ensure (x : Session σ α) (after : Session σ Unit) (s : σ) :
    (x.ensure after).perform s =
      match after.perform (x.perform s).2 with
      | (.ok _, s'') => ((x.perform s).1, s'')
      | (.error e, s'') => (.error e, s'') := rfl

/-- A step on a part of the state, seen from the whole. -/
theorem perform_within (get : σ → τ) (set : τ → σ → σ) (x : Session τ α) (s : σ) :
    (within get set x).perform s = ((x.perform (get s)).1, set (x.perform (get s)).2 s) := rfl

/-- A value is passed on to what follows. -/
theorem perform_bind_of_ok {x : Session σ α} {s s' : σ} {a : α} (h : x.perform s = (.ok a, s'))
    (f : α → Session σ β) : (x >>= f).perform s = (f a).perform s' := by
  rw [perform_bind, h]

/-- A failure ends a sequence. -/
theorem perform_bind_of_error {x : Session σ α} {s s' : σ} {e : Failure} (h : x.perform s = (.error e, s'))
    (f : α → Session σ β) : (x >>= f).perform s = (.error e, s') := by
  rw [perform_bind, h]

/-- A sequence that gave a value went through a value of its first step. -/
theorem of_perform_bind_ok {x : Session σ α} {f : α → Session σ β} {s s'' : σ} {b : β}
    (h : (x >>= f).perform s = (.ok b, s'')) :
    ∃ a s', x.perform s = (.ok a, s') ∧ (f a).perform s' = (.ok b, s'') := by
  rw [perform_bind] at h
  rcases hx : x.perform s with ⟨e | a, s'⟩
  · rw [hx] at h
    cases h
  · rw [hx] at h
    exact ⟨a, s', rfl, h⟩

/-- A sequence that failed did so in its first step or after it. -/
theorem of_perform_bind_error {x : Session σ α} {f : α → Session σ β} {s s'' : σ} {e : Failure}
    (h : (x >>= f).perform s = (.error e, s'')) :
    (∃ a s', x.perform s = (.ok a, s') ∧ (f a).perform s' = (.error e, s'')) ∨ x.perform s = (.error e, s'') := by
  rw [perform_bind] at h
  rcases hx : x.perform s with ⟨e' | a, s'⟩
  · rw [hx] at h
    cases h
    exact .inr rfl
  · rw [hx] at h
    exact .inl ⟨a, s', rfl, h⟩

/-- Selected failures are handled, and the others are left as they are. -/
theorem perform_rescue_if (x : Session σ α) (p : Failure → Bool) (y : Failure → Session σ α) (s : σ) :
    (x.rescue fun e => if p e then some (y e) else none).perform s =
      match x.perform s with
      | (.error e, s') => if p e then (y e).perform s' else (.error e, s')
      | (.ok a, s') => (.ok a, s') := by
  rw [perform_rescue]
  rcases x.perform s with ⟨e | a, s'⟩
  · by_cases hp : p e = true
    · simp only [hp, if_true]
    · simp only [hp]
      rfl
  · rfl

/-- A run with a handler is the run without it, unless a selected failure was handled. -/
theorem of_perform_rescue_if {x : Session σ α} {p : Failure → Bool} {y : Failure → Session σ α} {s s'' : σ}
    {result : Except Failure α} (h : (x.rescue fun e => if p e then some (y e) else none).perform s = (result, s'')) :
    (x.perform s = (result, s'') ∧ ∀ e, result = .error e → p e = false) ∨
      ∃ e s', x.perform s = (.error e, s') ∧ p e = true ∧ (y e).perform s' = (result, s'') := by
  rw [perform_rescue_if] at h
  rcases hrun : x.perform s with ⟨e | a, s'⟩
  all_goals
    rw [hrun] at h
    dsimp only at h
  · -- the failure is handled, or goes on
    by_cases hp : p e = true
    · rw [if_pos hp] at h
      exact .inr ⟨e, s', rfl, hp, h⟩
    · rw [if_neg hp] at h
      cases h
      refine .inl ⟨rfl, ?_⟩
      rintro _ ⟨⟩
      exact Bool.eq_false_iff.mpr hp
  · cases h
    exact .inl ⟨rfl, nofun⟩

/-- What is run after a failure changes the result only by failing itself. -/
theorem perform_onFailure (x : Session σ α) (p : Failure → Bool) (after : Failure → Session σ Unit) (s : σ) :
    (x.onFailure p after).perform s =
      match x.perform s with
      | (.error e, s') =>
        if p e then
          match (after e).perform s' with
          | (.ok _, s'') => (.error e, s'')
          | (.error e', s'') => (.error e', s'')
        else (.error e, s')
      | (.ok a, s') => (.ok a, s') := by
  rw [onFailure, perform_rescue]
  rcases x.perform s with ⟨e | a, s'⟩
  · by_cases hp : p e = true
    · simp only [hp, if_true, perform_bind]
      rcases (after e).perform s' with ⟨_ | _, _⟩ <;> rfl
    · simp only [hp]
      rfl
  · rfl

/-- What is run after failures does not show in the result, if it goes through. -/
theorem result_onFailure {x : Session σ α} {p : Failure → Bool} {after : Failure → Session σ Unit} {s : σ}
    (hafter : ∀ e, ((after e).perform (x.perform s).2).1 = .ok ()) :
    ((x.onFailure p after).perform s).1 = (x.perform s).1 := by
  rw [perform_onFailure]
  rcases hrun : x.perform s with ⟨e | a, s'⟩
  · have hafter := hafter e
    rw [hrun] at hafter
    by_cases hp : p e = true
    · simp only [hp, if_true]
      -- the treatment succeeds, so it is the first failure that goes on
      rcases hrun' : (after e).perform s' with ⟨_ | _, _⟩
      · rw [hrun'] at hafter
        cases hafter
      · rfl
    · simp only [hp]
      rfl
  · rfl

/-- What is run after failures does not show in a value. -/
theorem of_perform_onFailure_ok {x : Session σ α} {p : Failure → Bool} {after : Failure → Session σ Unit} {s s' : σ}
    {a : α} (h : (x.onFailure p after).perform s = (.ok a, s')) : x.perform s = (.ok a, s') := by
  rw [perform_onFailure] at h
  rcases hrun : x.perform s with ⟨e | b, s₁⟩
  · -- whatever the step after the failure does, the failure is passed on
    rw [hrun] at h
    dsimp only at h
    repeat' split at h
    all_goals cases h
  · rw [hrun] at h
    exact h

/-- A failure that is left after a step for failures is the first one: either it was not selected, or the step after it
has gone through. If that step fails, its failure is what is left. -/
theorem of_perform_onFailure_error {x : Session σ α} {p : Failure → Bool} {after : Failure → Session σ Unit}
    {s s'' : σ} {e' : Failure} (h : (x.onFailure p after).perform s = (.error e', s'')) :
    ∃ e s', x.perform s = (.error e, s') ∧
      (p e = false ∧ e' = e ∧ s'' = s' ∨
        p e = true ∧ s'' = ((after e).perform s').2 ∧ (((after e).perform s').1 = .ok () → e' = e)) := by
  rw [perform_onFailure] at h
  rcases hrun : x.perform s with ⟨e | a, s'⟩
  · refine ⟨e, s', rfl, ?_⟩
    rw [hrun] at h
    dsimp only at h
    by_cases hp : p e = true
    · rw [if_pos hp] at h
      -- the failure was looked after, which may fail itself
      rcases hafter : (after e).perform s' with ⟨e₁ | _, s₁⟩
      all_goals
        rw [hafter] at h
        cases h
      · exact .inr ⟨hp, rfl, nofun⟩
      · exact .inr ⟨hp, rfl, fun _ => rfl⟩
    · -- it is passed on as it came
      rw [if_neg hp] at h
      cases h
      exact .inl ⟨Bool.eq_false_iff.mpr hp, rfl, rfl⟩
  · rw [hrun] at h
    cases h

/-- A step whose value is renamed. -/
theorem perform_map (f : α → β) (x : Session σ α) (s : σ) :
    (f <$> x).perform s = ((x.perform s).1.map f, (x.perform s).2) := by
  rw [← bind_pure_comp, perform_bind]
  rcases x.perform s with ⟨_ | _, _⟩ <;> rfl

/-- A chosen step runs as the step that was chosen. -/
theorem perform_ite (c : Prop) [Decidable c] (x y : Session σ α) (s : σ) :
    (if c then x else y).perform s = if c then x.perform s else y.perform s := by
  split <;> rfl

/-! ## §2 Respecting a relation -/

/-- Every run of the step leads to a state that stands in the relation to the one it began in. -/
def Respects (R : σ → σ → Prop) (x : Session σ α) : Prop :=
  ∀ s, R s (x.perform s).2

namespace Respects

variable {R : σ → σ → Prop} {x : Session σ α}

/-- A weaker relation is respected too. -/
theorem mono {Q : σ → σ → Prop} (hx : Respects R x) (h : ∀ s t, R s t → Q s t) : Respects Q x :=
  fun s => h _ _ (hx s)

theorem of_perform (hx : Respects R x) {s s' : σ} {result : Except Failure α} (h : x.perform s = (result, s')) :
    R s s' := by
  have hrespects := hx s
  rwa [h] at hrespects

/-- A change of the state by a function. -/
theorem modify {f : σ → σ} (h : ∀ s, R s (f s)) : Respects R (modify f : Session σ PUnit) :=
  h

/-- A renamed value changes nothing in the state. -/
theorem map (hx : Respects R x) (f : α → β) : Respects R (f <$> x) := by
  intro s
  rw [perform_map]
  exact hx s

/-- What follows a look at the state may be judged in that very state. -/
theorem bind_get {f : σ → Session σ β} (h : ∀ s, R s ((f s).perform s).2) : Respects R (get >>= f) := by
  intro s
  rw [perform_bind_of_ok (perform_get s)]
  exact h s

section Preorder

variable [IsPreorder σ R]

/-- A value changes nothing. -/
theorem pure (a : α) : Respects R (pure a : Session σ α) :=
  fun s => refl_of R s

/-- A failure changes nothing. -/
theorem throw (e : Failure) : Respects R (throw e : Session σ α) :=
  fun s => refl_of R s

/-- A computation that needs no state changes nothing. -/
theorem ofExcept (a : Except Failure α) : Respects R (ofExcept a : Session σ α) :=
  fun s => refl_of R s

/-- Looking at the state changes nothing. -/
theorem get : Respects R (get : Session σ σ) :=
  fun s => refl_of R s

/-- Steps one after the other; the second may rely on what the first one's value says. -/
theorem bind_of_value {f : α → Session σ β} (hx : Respects R x)
    (hf : ∀ s a s', x.perform s = (.ok a, s') → R s' ((f a).perform s').2) : Respects R (x >>= f) := by
  intro s
  have first := hx s
  rw [perform_bind]
  rcases h : x.perform s with ⟨e | a, s'⟩
  · rw [h] at first
    exact first
  · rw [h] at first
    exact trans_of R first (hf s a s' h)

/-- Steps one after the other. -/
theorem bind {f : α → Session σ β} (hx : Respects R x) (hf : ∀ a, Respects R (f a)) :
    Respects R (x >>= f) :=
  bind_of_value hx fun _ a s' _ => hf a s'

/-- A step and the handlers of its failures. -/
theorem rescue {handler? : Failure → Option (Session σ α)} (hx : Respects R x)
    (hh : ∀ e y, handler? e = some y → Respects R y) : Respects R (x.rescue handler?) := by
  intro s
  have first := hx s
  rw [perform_rescue]
  rcases h : x.perform s with ⟨e | a, s'⟩
  · rw [h] at first
    -- no handler: the failure goes on
    rcases hy : handler? e with _ | y
    · simp only [hy]
      exact first
    · -- the handler runs behind what failed
      simp only [hy]
      exact trans_of R first (hh e y hy s')
  · rw [h] at first
    exact first

/-- A step and the handler of the failures that are selected. -/
theorem rescue_if {p : Failure → Bool} {y : Failure → Session σ α} (hx : Respects R x)
    (hy : ∀ e, p e = true → Respects R (y e)) : Respects R (x.rescue fun e => if p e then some (y e) else none) := by
  refine rescue hx fun e z hz => ?_
  split at hz
  · cases hz
    exact hy e ‹_›
  · cases hz

/-- A step and what is run after some of its failures. -/
theorem onFailure {p : Failure → Bool} {after : Failure → Session σ Unit} (hx : Respects R x)
    (ha : ∀ e, Respects R (after e)) : Respects R (x.onFailure p after) :=
  rescue_if hx fun e _ => bind (ha e) fun _ => throw e

/-- The same step for every item of a list. -/
theorem forM {f : α → Session σ PUnit} (hf : ∀ a, Respects R (f a)) (items : List α) :
    Respects R (items.forM f) := by
  induction items with
  | nil => exact pure _
  | cons a rest ih => exact bind (hf a) fun _ => ih

end Preorder

end Respects

end DirectoryLogin.Session

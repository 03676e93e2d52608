import DirectoryLogin.Proofs.Programs
/-!
# Relations Kept by Sessions that Are not Interrupted

Some relations hold between the first and the last state of a step only if the step comes to an end of its own: with a
value, or with a failure that can be caught. An interrupt may leave it half done. The rules for putting steps together
are those of `Session.Respects`, as long as nothing but ordinary failures is handled.
-/

namespace DirectoryLogin.Session

variable {σ α β : Type}

/-- Every run of the step that is not interrupted leads to a state that stands in the relation to the one it began
in. -/
def Concludes (R : σ → σ → Prop) (x : Session σ α) : Prop :=
  ∀ s, FailsOrdinarily (x.perform s).1 → R s (x.perform s).2

theorem Respects.concludes {R : σ → σ → Prop} {x : Session σ α} (hx : Respects R x) : Concludes R x :=
  fun s _ => hx s

namespace Concludes

variable {R : σ → σ → Prop} {x : Session σ α}

theorem of_perform (hx : Concludes R x) {s s' : σ} {result : Except Failure α} (h : x.perform s = (result, s'))
    (hordinary : FailsOrdinarily result) : R s s' := by
  have hrun := hx s
  rw [h] at hrun
  exact hrun hordinary

theorem bind_get {f : σ → Session σ β}
    (h : ∀ s, FailsOrdinarily ((f s).perform s).1 → R s ((f s).perform s).2) : Concludes R (get >>= f) := by
  intro s
  rw [perform_bind_of_ok (perform_get s)]
  exact h s

section Preorder

variable [IsPreorder σ R]

/-- Steps one after the other; the second may rely on what the first one's value says. -/
theorem bind_of_value {f : α → Session σ β} (hx : Concludes R x)
    (hf : ∀ s a s', x.perform s = (.ok a, s') → FailsOrdinarily ((f a).perform s').1 → R s' ((f a).perform s').2) :
    Concludes R (x >>= f) := by
  intro s hordinary
  rcases hrun : x.perform s with ⟨e | a, s'⟩
  · -- the first step has failed, so that its failure is the one that counts
    rw [perform_bind_of_error hrun] at hordinary ⊢
    exact hx.of_perform hrun (.error (hordinary e rfl))
  · rw [perform_bind_of_ok hrun] at hordinary ⊢
    exact trans_of R (hx.of_perform hrun (.ok a)) (hf s a s' hrun hordinary)

theorem bind {f : α → Session σ β} (hx : Concludes R x) (hf : ∀ a, Concludes R (f a)) : Concludes R (x >>= f) :=
  bind_of_value hx fun _ a s' _ => hf a s'

/-- Only failures that can be caught are handled. -/
theorem rescue {handler? : Failure → Option (Session σ α)} (hx : Concludes R x)
    (hh : ∀ e y, handler? e = some y → e.isOrdinary = true ∧ Concludes R y) : Concludes R (x.rescue handler?) := by
  intro s hordinary
  rw [perform_rescue] at hordinary ⊢
  rcases hrun : x.perform s with ⟨e | a, s'⟩
  · rw [hrun] at hordinary
    rcases hy : handler? e with _ | y
    · simp only [hy] at hordinary ⊢
      exact hx.of_perform hrun hordinary
    · simp only [hy] at hordinary ⊢
      obtain ⟨he, hconcludes⟩ := hh e y hy
      exact trans_of R (hx.of_perform hrun (.error he)) (hconcludes s' hordinary)
  · exact hx.of_perform hrun (.ok a)

theorem onFailure {after : Failure → Session σ Unit} (hx : Concludes R x) (ha : ∀ e, Concludes R (after e)) :
    Concludes R (x.onFailure Failure.isOrdinary after) := by
  refine rescue hx fun e y hy => ?_
  split at hy
  · rename_i he
    cases hy
    exact ⟨he, bind (ha e) fun _ => (Respects.throw e).concludes⟩
  · cases hy

theorem forM {f : α → Session σ PUnit} (hf : ∀ a, Concludes R (f a)) (items : List α) :
    Concludes R (items.forM f) := by
  induction items with
  | nil => exact (Respects.pure _).concludes
  | cons a rest ih => exact bind (hf a) fun _ => ih

end Preorder

end Concludes

end DirectoryLogin.Session

import DirectoryLogin.Failure
/-!
# Sessions

A session is a step that changes a state and either gives a value or fails. What it did to the state before it
failed stays done, so cleaning up is a matter of running more steps.

- `rescue` handles some failures and lets the others pass.
- `ensure` runs a step afterwards in any case; if that step fails, its failure is the one that counts.
- `onFailure` runs a step only after a failure, and fails again.
-/

namespace DirectoryLogin

/-- A step over a state `σ` that gives a value or fails. -/
abbrev Session (σ α : Type) := ExceptT Failure (StateM σ) α

namespace Session

variable {σ τ α β : Type}

/-- Run a step from a state. -/
def perform (x : Session σ α) (s : σ) : Except Failure α × σ :=
  x.run.run s

/-- A step given by what it does to each state. -/
def ofFunction (f : σ → Except Failure α × σ) : Session σ α :=
  ExceptT.mk f

/-- The value of a computation that needs no state. -/
def ofExcept (x : Except Failure α) : Session σ α :=
  ofFunction fun s => (x, s)

/-- Handle the failures for which there is a handler. -/
def rescue (x : Session σ α) (handler? : Failure → Option (Session σ α)) : Session σ α :=
  ofFunction fun s =>
    match x.perform s with
    | (.error e, s') =>
      match handler? e with
      | some y => y.perform s'
      | none => (.error e, s')
    | (.ok a, s') => (.ok a, s')

/-- Run `after` whether or not `x` fails. -/
def ensure (x : Session σ α) (after : Session σ Unit) : Session σ α :=
  ofFunction fun s =>
    let (result, s') := x.perform s
    match after.perform s' with
    | (.ok _, s'') => (result, s'')
    | (.error e, s'') => (.error e, s'')

/-- Run a step after the failures that `p` selects, and fail again. -/
def onFailure (x : Session σ α) (p : Failure → Bool) (after : Failure → Session σ Unit) : Session σ α :=
  x.rescue fun e => if p e then some (do after e; throw e) else none

/-- A step on a part of the state. -/
def within (get : σ → τ) (set : τ → σ → σ) (x : Session τ α) : Session σ α :=
  ofFunction fun s =>
    let (result, t) := x.perform (get s)
    (result, set t s)

/-! ## Running -/

@[simp] theorem perform_ofFunction (f : σ → Except Failure α × σ) (s : σ) :
    (ofFunction f).perform s = f s := rfl

@[simp] theorem perform_pure (a : α) (s : σ) : (pure a : Session σ α).perform s = (.ok a, s) := rfl

@[simp] theorem perform_throw (e : Failure) (s : σ) :
    (throw e : Session σ α).perform s = (.error e, s) := rfl

@[simp] theorem perform_ofExcept (x : Except Failure α) (s : σ) :
    (ofExcept x : Session σ α).perform s = (x, s) := rfl

/-- A sequence stops at its first failure. -/
theorem perform_bind (x : Session σ α) (f : α → Session σ β) (s : σ) :
    (x >>= f).perform s =
      match x.perform s with
      | (.ok a, s') => (f a).perform s'
      | (.error e, s') => (.error e, s') := by
  simp only [perform, bind, ExceptT.bind, ExceptT.run, ExceptT.mk, StateT.run, StateT.bind]
  rcases h : x s with ⟨_ | _, _⟩ <;> rfl

@[simp] theorem perform_get (s : σ) : (get : Session σ σ).perform s = (.ok s, s) := rfl

@[simp] theorem perform_set (s t : σ) : (set t : Session σ PUnit).perform s = (.ok ⟨⟩, t) := rfl

@[simp] theorem perform_modify (f : σ → σ) (s : σ) :
    (modify f : Session σ PUnit).perform s = (.ok ⟨⟩, f s) := rfl

end Session

end DirectoryLogin

import DirectoryLogin.Connection.Open
import Mathlib.Tactic.Common
/-!
# Environments that Come Back to the Service

An environment is tidy for some settings when it sets the same names to the same values as the environment that the
settings prescribe for one of the two attempts to open a connection. What an operation may do in between is
`Settles`: an entry is as it was, or it is the service's.

- `restoreSecurity_agrees`: what is held back from the opening of an encrypted connection comes back unchanged.
- `Settles.tidy`: a tidy environment that settles stays tidy.
-/

namespace DirectoryLogin

namespace Environment

/-! ## §1 Entries after an edit -/

theorem get?_erase (e : Environment) (name other : String) :
    (e.erase name).get? other = if other = name then none else e.get? other := by
  split
  · subst other
    exact get?_erase_self e name
  · exact get?_erase_of_ne e ‹_›

theorem get?_insert (e : Environment) (name other : String) (v : Value) :
    (e.insert name v).get? other = if other = name then some v else e.get? other := by
  split
  · subst other
    exact get?_insert_self e name v
  · exact get?_insert_of_ne e v ‹_›

theorem get?_insertText? (e : Environment) (name other : String) (text : Option String) :
    (e.insertText? name text).get? other =
      if other = name then (text.map .text).or (e.get? other) else e.get? other := by
  cases text with
  | none => simp [insertText?]
  | some t => simp [insertText?, get?_insert]

theorem get?_assign (e : Environment) (name other : String) (text : Option String) :
    (e.assign name text).get? other = if other = name then text.map .text else e.get? other := by
  cases text with
  | none => simp [assign, get?_erase]
  | some t => simp [assign, get?_insert]

theorem get?_restore (e : Environment) (name other : String) (preserved : Environment) :
    (e.restore name (some preserved)).get? other = if other = name then preserved.get? name else e.get? other := by
  unfold restore
  rcases h : preserved.get? name with _ | v
  · simp [h, get?_erase]
  · simp only [Option.bind_some, h, get?_insert, get?_erase]
    split <;> rfl

/-- Editing one name after the other edits each of them, and nothing else. -/
theorem get?_foldl {step : Environment → String → Environment} {g : String → Option Value → Option Value}
    (hstep : ∀ f name other, (step f name).get? other = if other = name then g name (f.get? other) else f.get? other)
    (hg : ∀ name x, g name (g name x) = g name x) (names : List String) (e : Environment) (other : String) :
    (names.foldl step e).get? other = if other ∈ names then g other (e.get? other) else e.get? other := by
  induction names generalizing e with
  | nil => simp
  | cons name rest ih =>
    rw [List.foldl_cons, ih, hstep]
    by_cases hname : other = name
    · subst hname
      simp [hg]
    · simp [hname]

/-! ## §2 Environments that agree -/

@[refl] theorem Agrees.refl (e : Environment) : e.Agrees e :=
  fun _ => rfl

theorem Agrees.symm {e f : Environment} (h : e.Agrees f) : f.Agrees e :=
  fun name => (h name).symm

theorem Agrees.trans {e f g : Environment} (h : e.Agrees f) (h' : f.Agrees g) : e.Agrees g :=
  fun name => (h name).trans (h' name)

section Agrees

variable {e f : Environment} (h : e.Agrees f)
include h

theorem Agrees.value_eq (name : String) : e.value name = f.value name := by
  rw [value, value, h name]

theorem Agrees.identity_eq : e.identity = f.identity := by
  simp only [identity, h.value_eq]

theorem Agrees.throwsReferrals_eq : e.throwsReferrals = f.throwsReferrals := by
  simp only [throwsReferrals, h.value_eq]

theorem Agrees.dereference_eq : e.dereference = f.dereference := by
  simp only [dereference, h.value_eq]

theorem Agrees.erase (name : String) : (e.erase name).Agrees (f.erase name) :=
  fun other => by simp only [get?_erase, h other]

theorem Agrees.insert (name : String) (v : Value) : (e.insert name v).Agrees (f.insert name v) :=
  fun other => by simp only [get?_insert, h other]

theorem Agrees.assign (name : String) (text : Option String) : (e.assign name text).Agrees (f.assign name text) :=
  fun other => by simp only [get?_assign, h other]

theorem Agrees.restore (name : String) {p q : Environment} (hpq : p.Agrees q) :
    (e.restore name (some p)).Agrees (f.restore name (some q)) :=
  fun other => by simp only [get?_restore, h other, hpq name]

end Agrees

/-! ## §3 The entries of the service -/

/-- The service's entry of a name, as far as it is part of an identity. -/
theorem get?_ofSettings_principal (s : Settings) (attempt : Int) :
    (ofSettings s attempt).get? principal = s.connectionName.map .text := by
  simp [ofSettings, get?_insertText?, get?_insert, get?, principal, credentials, authentication, protocol, referral,
    derefAliases, connectTimeout, readTimeout, providerUrl]

theorem get?_ofSettings_credentials (s : Settings) (attempt : Int) :
    (ofSettings s attempt).get? credentials = s.connectionPassword.map .text := by
  simp [ofSettings, get?_insertText?, get?_insert, get?, principal, credentials, authentication, protocol, referral,
    derefAliases, connectTimeout, readTimeout, providerUrl]

theorem get?_ofSettings_authentication (s : Settings) (attempt : Int) :
    (ofSettings s attempt).get? authentication = s.authentication.map .text := by
  simp [ofSettings, get?_insertText?, get?_insert, get?, principal, credentials, authentication, protocol, referral,
    derefAliases, connectTimeout, readTimeout, providerUrl]

/-- The service never acts under a delegated credential. -/
theorem get?_ofSettings_delegation (s : Settings) (attempt : Int) {name : String}
    (h : name ∈ [serverAuthentication, qualityOfProtection, delegated]) : (ofSettings s attempt).get? name = none := by
  simp only [List.mem_cons, List.not_mem_nil, or_false] at h
  rcases h with rfl | rfl | rfl <;>
    simp [ofSettings, get?_insertText?, get?_insert, get?, principal, credentials, authentication, protocol, referral,
      derefAliases, connectTimeout, readTimeout, providerUrl, serverAuthentication, qualityOfProtection, delegated]

theorem get?_restoreSecurity (e saved : Environment) (other : String) :
    (Connection.restoreSecurity e saved).get? other =
      if other ∈ securityNames then (saved.get? other).or (e.get? other) else e.get? other := by
  refine get?_foldl (g := fun name x => (saved.get? name).or x) (fun f name other => ?_) (fun name x => ?_) _ _ _
  · rcases saved.get? name with _ | v
    · simp only [Option.none_or, ite_self]
    · simp only [Option.some_or, get?_insert]
  · rcases saved.get? name <;> rfl

/-- What is held back comes back: an encrypted connection has the environment it was asked to have. -/
theorem restoreSecurity_agrees {e f : Environment} (h : f.Agrees (Connection.withoutSecurity e)) :
    (Connection.restoreSecurity f e).Agrees e := by
  intro other
  have hheld : (Connection.withoutSecurity e).get? other = if other ∈ securityNames then none else e.get? other :=
    get?_foldl (g := fun _ _ => none) (fun f name other => get?_erase f name other) (fun _ _ => rfl) _ _ _
  rw [get?_restoreSecurity, h other, hheld]
  split
  · rw [Option.or_none]
  · rfl

/-! ## §4 Tidy environments -/

/-- The environment is the one that the settings prescribe for an attempt to open a connection. -/
def Tidy (s : Settings) (e : Environment) : Prop :=
  ∃ attempt : Int, (attempt = 0 ∨ attempt = 1) ∧ e.Agrees (ofSettings s attempt)

/-- Apart from the name and the password, the environment is one that the settings prescribe. -/
def TidyButIdentity (s : Settings) (e : Environment) : Prop :=
  ∃ attempt : Int, (attempt = 0 ∨ attempt = 1) ∧
    ∀ name, name ≠ principal → name ≠ credentials → e.get? name = (ofSettings s attempt).get? name

/-- The name and the password are those of the service. -/
structure HasService (s : Settings) (e : Environment) : Prop where
  principal : e.get? principal = s.connectionName.map .text
  credentials : e.get? credentials = s.connectionPassword.map .text

theorem tidy_iff {s : Settings} {e : Environment} : e.Tidy s ↔ e.TidyButIdentity s ∧ e.HasService s := by
  constructor
  · rintro ⟨attempt, hattempt, hagrees⟩
    refine ⟨⟨attempt, hattempt, fun name _ _ => hagrees name⟩, ?_, ?_⟩
    · rw [hagrees, get?_ofSettings_principal]
    · rw [hagrees, get?_ofSettings_credentials]
  · rintro ⟨⟨attempt, hattempt, hothers⟩, hprincipal, hcredentials⟩
    refine ⟨attempt, hattempt, fun name => ?_⟩
    -- the two entries of the identity are those of the service, and all the others agree anyway
    by_cases hp : name = Environment.principal
    · rw [hp, hprincipal, get?_ofSettings_principal]
    by_cases hc : name = Environment.credentials
    · rw [hc, hcredentials, get?_ofSettings_credentials]
    exact hothers name hp hc

/-- Every entry is as it was, or it is the service's name or password. -/
structure Settles (s : Settings) (e e' : Environment) : Prop where
  principal : e'.get? principal = e.get? principal ∨ e'.get? principal = s.connectionName.map .text
  credentials : e'.get? credentials = e.get? credentials ∨ e'.get? credentials = s.connectionPassword.map .text
  others : ∀ name, name ≠ Environment.principal → name ≠ Environment.credentials → e'.get? name = e.get? name

instance (s : Settings) : IsPreorder Environment (Settles s) where
  refl _ := ⟨.inl rfl, .inl rfl, fun _ _ _ => rfl⟩
  trans _ _ _ h g :=
    { principal := g.principal.elim (fun heq => heq ▸ h.principal) .inr
      credentials := g.credentials.elim (fun heq => heq ▸ h.credentials) .inr
      others := fun name hp hc => (g.others name hp hc).trans (h.others name hp hc) }

section Settles

variable {s : Settings} {e e' : Environment}

theorem Settles.tidyButIdentity (h : Settles s e e') (he : e.TidyButIdentity s) : e'.TidyButIdentity s := by
  obtain ⟨attempt, hattempt, hothers⟩ := he
  exact ⟨attempt, hattempt, fun name hp hc => (h.others name hp hc).trans (hothers name hp hc)⟩

theorem Settles.hasService (h : Settles s e e') (he : e.HasService s) : e'.HasService s :=
  ⟨h.principal.elim (·.trans he.principal) id, h.credentials.elim (·.trans he.credentials) id⟩

/-- What settles from a tidy environment is tidy. -/
theorem Settles.tidy (h : Settles s e e') (he : e.Tidy s) : e'.Tidy s := by
  rw [tidy_iff] at he ⊢
  exact ⟨h.tidyButIdentity he.1, h.hasService he.2⟩

/-- What settles from the service's own entries changes nothing. -/
theorem Settles.agrees (h : Settles s e e') (he : e.HasService s) : e'.Agrees e := by
  intro name
  by_cases hp : name = Environment.principal
  · rw [hp]
    exact h.principal.elim id fun heq => heq.trans he.principal.symm
  by_cases hc : name = Environment.credentials
  · rw [hc]
    exact h.credentials.elim id fun heq => heq.trans he.credentials.symm
  exact h.others name hp hc

end Settles

end Environment

end DirectoryLogin

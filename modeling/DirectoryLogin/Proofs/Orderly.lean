import DirectoryLogin.Proofs.Connection.Requests
import DirectoryLogin.Proofs.Environment
import DirectoryLogin.Proofs.Raising
/-!
# Orderly Programs

What the realm does over a connection is put together from few parts: binding requests, messages, and brackets that
act under another identity and then put the environment back. `Exchange.Orderly` collects these parts, so that a
property of all lookups, checks and role searches is proved once, by induction.

Three kinds of bracket edit the same environment, and they nest. Each of them is `bracketed` with its own two edits.
-/

namespace DirectoryLogin

/-- A failure that says nothing about what was asked for. It may be due to the connection alone. -/
def Failure.isTransient : Failure → Bool
  | .directory fault => fault.kind == .transient
  | .defect .missingAttribute _ => true
  | _ => false

/-- A failure of another kind says something. -/
theorem Failure.isTransient_of_kind {e : Failure} {kind : DirectoryKind} (h : (e.directoryKind? == some kind) = true)
    (hkind : kind ≠ .transient) : e.isTransient = false := by
  have h := eq_of_beq h
  cases e with
  | directory fault =>
    cases h
    exact beq_eq_false_iff_ne.mpr hkind
  | _ => cases h

/-! ## §1 Brackets -/

namespace Environment

/-- The environment with the identity of a user. -/
def asUser (e : Environment) (name : Option String) (password : Option Password) : Environment :=
  (e.insert principal (.ofOption name)).insert credentials (.ofPassword password)

/-- The environment with the identity of the service, or nobody's. -/
def asService (e : Environment) (s : Settings) : Environment :=
  (e.assign principal s.connectionName).assign credentials s.connectionPassword

/-- The environment in which a password is checked: a mechanism for delegated credentials would not look at it. -/
def forCheck (e : Environment) (name : Option String) (password : Option Password) : Environment :=
  if (e.value authentication).text? == some delegationMechanism then (e.asUser name password).erase authentication
  else e.asUser name password

/-- The environment under a delegated credential. -/
def asDelegate (e : Environment) (s : Settings) (credential : Value) : Environment :=
  (((e.insert authentication (.text delegationMechanism)).insert serverAuthentication (.text "true")).insert
    qualityOfProtection (.text s.spnegoDelegationQop)).insert delegated credential

/-- The environment with the entries put back that a delegated credential sets. -/
def withoutDelegate (e preserved : Environment) : Environment :=
  delegationNames.foldl (fun e name => e.restore name (some preserved)) e

/-! ### What a bracket leaves -/

theorem get?_asUser (e : Environment) (name : Option String) (password : Option Password) {other : String}
    (hp : other ≠ principal) (hc : other ≠ credentials) : (e.asUser name password).get? other = e.get? other := by
  simp only [asUser, get?_insert, hp, hc, if_false]

theorem get?_forCheck (e : Environment) (name : Option String) (password : Option Password) {other : String}
    (hp : other ≠ principal) (hc : other ≠ credentials) (ha : other ≠ authentication) :
    (e.forCheck name password).get? other = e.get? other := by
  unfold forCheck
  split
  · rw [get?_erase, if_neg ha, get?_asUser e name password hp hc]
  · exact get?_asUser e name password hp hc

theorem get?_asDelegate (e : Environment) (s : Settings) (credential : Value) {other : String}
    (h : other ∉ delegationNames) : (e.asDelegate s credential).get? other = e.get? other := by
  simp only [delegationNames, List.mem_cons, List.not_mem_nil, or_false, not_or] at h
  obtain ⟨ha, hs, hq, hd⟩ := h
  simp only [asDelegate, get?_insert, ha, hs, hq, hd, if_false]

theorem get?_withoutDelegate (e preserved : Environment) (other : String) :
    (e.withoutDelegate preserved).get? other =
      if other ∈ delegationNames then preserved.get? other else e.get? other :=
  get?_foldl (g := fun name _ => preserved.get? name)
    (fun f name other => get?_restore f name other preserved) (fun _ _ => rfl) _ _ _

theorem hasService_asService (e : Environment) (s : Settings) : (e.asService s).HasService s where
  principal := by
    have hne : principal ≠ credentials := by decide
    simp only [asService, get?_assign, hne, if_false, if_true]
  credentials := by simp only [asService, get?_assign, if_true]

/-- Whatever the name and the password were, putting the service back settles. -/
theorem settles_asService {s : Settings} {e e' : Environment}
    (h : ∀ name, name ≠ principal → name ≠ credentials → e'.get? name = e.get? name) :
    Settles s e (e'.asService s) where
  principal := .inr (hasService_asService e' s).principal
  credentials := .inr (hasService_asService e' s).credentials
  others name hp hc := by
    simp only [asService, get?_assign, hp, hc, if_false]
    exact h name hp hc

/-- What a delegated credential sets is put back, and the rest settles as it did. -/
theorem settles_withoutDelegate {s : Settings} {e e' : Environment} {credential : Value}
    (h : Settles s (e.asDelegate s credential) e') : Settles s e (e'.withoutDelegate e) where
  principal := by
    -- the principal and the credentials are none of the delegation's own names
    have hp : principal ∉ delegationNames := by decide
    rw [get?_withoutDelegate, if_neg hp, ← get?_asDelegate e s credential hp]
    exact h.principal
  credentials := by
    have hc : credentials ∉ delegationNames := by decide
    rw [get?_withoutDelegate, if_neg hc, ← get?_asDelegate e s credential hc]
    exact h.credentials
  others name hp hc := by
    rw [get?_withoutDelegate]
    -- a name of the delegation is set back, and any other is as it was
    split
    · rfl
    · rw [h.others name hp hc, get?_asDelegate e s credential ‹_›]

theorem Agrees.asUser {e f : Environment} (h : e.Agrees f) (name : Option String) (password : Option Password) :
    (e.asUser name password).Agrees (f.asUser name password) :=
  (h.insert _ _).insert _ _

theorem Agrees.asService {e f : Environment} (h : e.Agrees f) (s : Settings) :
    (e.asService s).Agrees (f.asService s) :=
  (h.assign _ _).assign _ _

theorem Agrees.forCheck {e f : Environment} (h : e.Agrees f) (name : Option String) (password : Option Password) :
    (e.forCheck name password).Agrees (f.forCheck name password) := by
  unfold Environment.forCheck
  rw [h.value_eq]
  split
  · exact (h.asUser name password).erase _
  · exact h.asUser name password

theorem Agrees.asDelegate {e f : Environment} (h : e.Agrees f) (s : Settings) (credential : Value) :
    (e.asDelegate s credential).Agrees (f.asDelegate s credential) :=
  (((h.insert _ _).insert _ _).insert _ _).insert _ _

theorem Agrees.withoutDelegate {e f p q : Environment} (h : e.Agrees f) (hpq : p.Agrees q) :
    (e.withoutDelegate p).Agrees (f.withoutDelegate q) :=
  fun other => by simp only [get?_withoutDelegate, h other, hpq other]

end Environment

namespace Exchange

variable {α β : Type}

/-- Run a step in an edited environment, and edit what it leaves with the first environment at hand. -/
def bracketed (enter : Environment → Environment) (leave : Environment → Environment → Environment)
    (x : Exchange α) : Exchange α :=
  Session.ofFunction fun ch =>
    let (result, ch') := x.perform (ch.withEnvironment (enter ch.connection.environment))
    (result, ch'.withEnvironment (leave ch.connection.environment ch'.connection.environment))

/-- Acting as a user is a bracket. -/
theorem boundAs_eq (s : Settings) (name : Option String) (password : Option Password) (x : Exchange α) :
    boundAs s name password x = bracketed (·.asUser name password) (fun _ e => e.asService s) x :=
  rfl

/-- Acting under a delegated credential is a bracket. -/
theorem delegating_eq (s : Settings) (credential : Value) (x : Exchange α) :
    delegating s credential x =
      if credential.isPresent && s.useDelegatedCredential then
        bracketed (·.asDelegate s credential) (fun preserved e => e.withoutDelegate preserved) x
      else x := by
  rfl

/-- The bind behind a check: it is enough to read the root. -/
def checkBound : Exchange Bool :=
  Session.rescue (do let _ ← read "" none; return true)
    fun e => if e.directoryKind? == some .authentication then some (return false) else none

/-- A positive check has read the root; a failure is never positive. -/
theorem read_ok_of_checkBound {ch ch' : Channel} (h : checkBound.perform ch = (.ok true, ch')) :
    ∃ attributes, (read "" none).perform ch = (.ok attributes, ch') := by
  rcases Session.of_perform_rescue_if h with ⟨hread, -⟩ | ⟨_, _, -, -, hnegative⟩
  · obtain ⟨attributes, ch₁, hread, hreturn⟩ := Session.of_perform_bind_ok hread
    cases hreturn
    exact ⟨attributes, hread⟩
  · cases hnegative

/-- Checking a password by a bind is a bracket. -/
theorem verifyByBind_eq (s : Settings) (user : User) (password : Option Password) :
    verifyByBind s user password =
      if user.dn.isNone || !(Value.ofPassword password).isGiven then return false
      else bracketed (·.forCheck user.dn password)
        (fun preserved e => (e.restore Environment.authentication (some preserved)).asService s) checkBound := by
  unfold verifyByBind
  split
  · rfl
  refine Session.ext fun ch => ?_
  simp only [bracketed, Environment.forCheck, Session.perform_ofFunction]
  -- both sides look at the mechanism that is in the environment
  rw [Session.perform_bind_of_ok (perform_connection ch)]
  by_cases hmechanism : ((ch.connection.environment.value Environment.authentication).text? ==
      some delegationMechanism) = true
  · simp only [hmechanism, if_true]
    rfl
  · simp only [hmechanism]
    rfl

/-! ## §2 The parts of orderly programs -/

/-- The failure that follows some results is one that programs raise. -/
def EndsOrdinarily (results : Results) : Prop :=
  ∀ e, results.ending = some e → e.isRaised = true

/-- A program for the settings `s` is orderly, and its values satisfy `P`. It reads nothing of the connection but the
name under which names are relative, fails of its own only in ways in which programs fail, handles no failure that may
be due to the connection alone, and edits the environment only in brackets. -/
inductive Orderly (s : Settings) : {α : Type} → (α → Prop) → Exchange α → Prop
  | pure {α : Type} {P : α → Prop} {a : α} (ha : P a) : Orderly s P (pure a)
  | throw {α : Type} {P : α → Prop} {e : Failure} (he : e.isRaised = true) : Orderly s P (throw e)
  | bind {α β : Type} {P : α → Prop} {Q : β → Prop} {x : Exchange α} {f : α → Exchange β} (hx : Orderly s P x)
      (hf : ∀ a, P a → Orderly s Q (f a)) : Orderly s Q (x >>= f)
  | rescue {α : Type} {P : α → Prop} {x : Exchange α} {handler? : Failure → Option (Exchange α)}
      (hx : Orderly s P x) (hh : ∀ e y, handler? e = some y → Orderly s P y)
      (hpass : ∀ e y, handler? e = some y → e.isTransient = false) : Orderly s P (x.rescue handler?)
  | say {level : Level} {source : Source} {text : String} :
      Orderly s (fun _ => True) (onWorld (World.say level source text))
  | relative {α : Type} {P : α → Prop} {f : String → Exchange α} (hf : ∀ name, Orderly s P (f name)) :
      Orderly s P (connection >>= fun c => f c.namespaceName)
  | sized {α : Type} {P : α → Prop} {f : Nat → Exchange α} (hf : ∀ extent, Orderly s P (f extent)) :
      Orderly s P (get >>= fun ch => f ch.world.directory.extent)
  | search {base filter : String} {controls : SearchControls} :
      Orderly s EndsOrdinarily (search base filter controls)
  | read {dn : String} {names : Option (List String)} : Orderly s (fun _ => True) (read dn names)
  | bracketed {α : Type} {P : α → Prop} {enter : Environment → Environment}
      {leave : Environment → Environment → Environment} {x : Exchange α}
      (hsettles : ∀ e e', Environment.Settles s (enter e) e' → Environment.Settles s e (leave e e'))
      (henter : ∀ e f, e.Agrees f → (enter e).Agrees (enter f))
      (hleave : ∀ e f e' f', e.Agrees f → e'.Agrees f' → (leave e e').Agrees (leave f f'))
      (hx : Orderly s P x) : Orderly s P (bracketed enter leave x)

namespace Orderly

variable {s : Settings} {P : α → Prop}

theorem ofExcept {x : Except Failure α} (hx : Raises x) :
    Orderly s (fun _ => True) (Session.ofExcept x : Exchange α) := by
  rcases x with e | a
  · exact throw (hx e rfl)
  · exact pure trivial

/-- Failures that are selected may be handled, if none of them can be due to the connection alone. -/
theorem rescue_if {x : Exchange α} {p : Failure → Bool} {y : Failure → Exchange α} (hx : Orderly s P x)
    (hy : ∀ e, p e = true → Orderly s P (y e)) (hpass : ∀ e, p e = true → e.isTransient = false) :
    Orderly s P (x.rescue fun e => if p e then some (y e) else none) := by
  refine rescue hx (fun e z hz => ?_) fun e z hz => ?_
  all_goals split at hz
  · cases hz
    exact hy e ‹_›
  · cases hz
  · exact hpass e ‹_›
  · cases hz

/-- What follows a bracket or a choice may use whatever the value is. -/
theorem andThen {x : Exchange α} {f : α → Exchange β} {Q : β → Prop} (hx : Orderly s (fun _ => True) x)
    (hf : ∀ a, Orderly s Q (f a)) : Orderly s Q (x >>= f) :=
  hx.bind fun a _ => hf a

theorem ite {c : Prop} [Decidable c] {x y : Exchange α} (hx : Orderly s P x) (hy : Orderly s P y) :
    Orderly s P (if c then x else y) := by
  split
  · exact hx
  · exact hy

theorem boundAs {name : Option String} {password : Option Password} {x : Exchange α} (hx : Orderly s P x) :
    Orderly s P (boundAs s name password x) := by
  rw [boundAs_eq]
  refine bracketed (fun e e' h => ?_) (fun _ _ h => h.asUser _ _) (fun _ _ _ _ _ h => h.asService s) hx
  refine Environment.settles_asService fun other hp hc => ?_
  rw [h.others other hp hc, Environment.get?_asUser e name password hp hc]

theorem delegating {credential : Value} {x : Exchange α} (hx : Orderly s P x) :
    Orderly s P (delegating s credential x) := by
  rw [delegating_eq]
  refine ite ?_ hx
  exact bracketed (fun _ _ h => Environment.settles_withoutDelegate h) (fun _ _ h => h.asDelegate s credential)
    (fun _ _ _ _ hp h => h.withoutDelegate hp) hx

theorem checkBound : Orderly s (fun _ => True) checkBound := by
  refine rescue_if (read.bind fun _ _ => pure trivial) (fun e _ => pure trivial) fun e hkind => ?_
  exact Failure.isTransient_of_kind hkind nofun

theorem verifyByBind {user : User} {password : Option Password} :
    Orderly s (fun _ => True) (verifyByBind s user password) := by
  rw [verifyByBind_eq]
  refine ite (pure trivial) ?_
  refine bracketed (fun e e' h => ?_) (fun _ _ h => h.forCheck _ _)
    (fun _ _ _ _ hp h => (h.restore _ hp).asService s) checkBound
  refine Environment.settles_asService fun other hp hc => ?_
  rw [Environment.get?_restore]
  split
  · rw [‹other = _›]
  · rw [h.others other hp hc, Environment.get?_forCheck e user.dn password hp hc ‹_›]

end Orderly

end Exchange

/-! ## §3 Orderly programs serve the service -/

namespace Channel

/-- What orderly programs for some settings have in common: the environment settles. -/
structure Serves (s : Settings) (ch ch' : Channel) : Prop extends Steady ch ch' where
  environment : Environment.Settles s ch.connection.environment ch'.connection.environment

instance (s : Settings) : IsPreorder Channel (Serves s) where
  refl ch := ⟨refl_of Steady ch, refl_of _ _⟩
  trans _ _ _ h g := ⟨trans_of Steady h.toSteady g.toSteady, trans_of _ h.environment g.environment⟩

theorem Proceeds.serves {ch ch' : Channel} (h : Proceeds ch ch') (s : Settings) : Serves s ch ch' :=
  ⟨h.toSteady, h.environment ▸ refl_of _ _⟩

end Channel

namespace Exchange

variable {α : Type} {s : Settings} {P : α → Prop} {x : Exchange α}

theorem search_endsOrdinarily {base filter : String} {controls : SearchControls} {ch ch' : Channel}
    {results : Results} (h : (search base filter controls).perform ch = (.ok results, ch')) :
    EndsOrdinarily results := by
  rw [search_eq] at h
  obtain ⟨_, ch₁, -, hbound⟩ := Session.of_perform_bind_ok h
  rw [searchBound_eq] at hbound
  split at hbound
  · -- a page that was answered raises as its items do
    have hresult := congrArg Prod.fst hbound
    dsimp only at hresult
    generalize (World.searchWire _ _).perform ch₁.world = answer at hresult
    obtain ⟨e | response, w⟩ := answer
    · cases hresult
    · cases hresult
      exact fun e he => Results.ofItems_raises he
  · cases hbound
    exact fun e he => nomatch he

/-- The values of an orderly program are what they are said to be. -/
theorem Orderly.value (hx : Orderly s P x) {ch ch' : Channel} {a : α} (h : x.perform ch = (.ok a, ch')) : P a := by
  -- over the ways of putting programs together; only a search says something about its values
  induction hx generalizing ch ch' with
  | pure ha =>
    cases h
    exact ha
  | throw => cases h
  | bind _ _ ihx ihf =>
    obtain ⟨b, ch₁, hb, hf⟩ := Session.of_perform_bind_ok h
    exact ihf b (ihx hb) hf
  | @rescue _ _ x handler? _ _ _ ihx ihh =>
    rw [Session.perform_rescue] at h
    rcases hrun : x.perform ch with ⟨e | b, ch₁⟩
    · rw [hrun] at h
      rcases hhandler : handler? e with _ | y
      · simp only [hhandler] at h
        cases h
      · simp only [hhandler] at h
        exact ihh e y hhandler h
    · rw [hrun] at h
      cases h
      exact ihx hrun
  | say => trivial
  | relative _ ih => exact ih _ h
  | sized _ ih => exact ih _ h
  | search => exact search_endsOrdinarily h
  | read => trivial
  | @bracketed _ _ enter leave x _ _ _ _ ih =>
    rcases hrun : x.perform (ch.withEnvironment (enter ch.connection.environment)) with ⟨result, ch₁⟩
    have hresult : result = .ok a := by
      have h := congrArg Prod.fst h
      rwa [Exchange.bracketed, Session.perform_ofFunction, hrun] at h
    rw [hresult] at hrun
    exact ih hrun

/-- **Orderly programs serve**: whatever they do in between and however they end, every entry of the environment is
as it was or is the service's. -/
theorem Orderly.serves (hx : Orderly s P x) : x.Respects (Channel.Serves s) := by
  induction hx with
  | pure => exact .pure _
  | throw => exact .throw _
  | bind hx _ ihx ihf => exact .bind_of_value ihx fun _ a ch' h => ihf a (hx.value h) ch'
  | rescue _ _ _ ihx ihh => exact .rescue ihx ihh
  | say => exact (say_proceeds _ _ _).mono fun _ _ h => h.serves s
  | relative _ ih => exact fun ch => ih _ ch
  | sized _ ih => exact .bind_get fun ch => ih _ ch
  | search => exact (search_proceeds _ _ _).mono fun _ _ h => h.serves s
  | read => exact (read_proceeds _ _).mono fun _ _ h => h.serves s
  | @bracketed _ _ enter leave x hsettles _ _ _ ih =>
    -- inside the brackets the environment is another one, and leaving them settles it
    intro ch
    have hentered := Channel.steady_withEnvironment ch (enter ch.connection.environment)
    have hrun := ih (ch.withEnvironment (enter ch.connection.environment))
    exact ⟨trans_of Channel.Steady (trans_of Channel.Steady hentered hrun.toSteady)
      (Channel.steady_withEnvironment _ _), hsettles _ _ hrun.environment⟩

end Exchange

end DirectoryLogin

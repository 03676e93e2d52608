import DirectoryLogin.Proofs.Manager.Unrejected
import DirectoryLogin.Proofs.Realm.EncryptedConnections
/-!
# Rejected Settings Change Nothing

New settings are rejected before anything is changed, or they take effect, and then they are never rejected again. A
manager compiles the templates of its active settings whenever it makes a handle, in the middle of lending it out; but
these are templates that have been compiled before, and whatever it asks the registry for it has asked for before.

- `Login.reconfigure_received`: how a realm receives new settings.
- `Scene.run_evolves`: in any run, the active settings stay such that they can be used.
- `rejected_settings_change_nothing`: a rejection leaves the realm as it was, and what is accepted is never rejected.
-/

namespace DirectoryLogin

open Managed
open Manager (Abides Evolves)

/-! ## §1 New settings -/

namespace Realm

/-- The realm after some messages, and nothing else. -/
def noting (r : Realm) (notes : List Message) : Realm :=
  { r with manager.world.journal := r.manager.world.journal ++ notes }

theorem noting_nil (r : Realm) : r.noting [] = r := by
  rw [noting, List.append_nil]

/-- How a realm receives new settings. -/
inductive Received (snapshot : Snapshot) (r : Realm) : Except Failure HandleId → Realm → Prop
  /-- They are rejected, and nothing is changed. -/
  | rejected (e : Failure) (notes : List Message) (he : e.isRejection = true) :
    Received snapshot r (.error e) (r.noting notes)
  /-- They are the active ones from then on, although there was an interrupt. -/
  | interrupted (e : Failure) (r' : Realm) (he : e.isOrdinary = false) : Received snapshot r (.error e) r'
  | accepted (id : HandleId) (r' : Realm) (hactive : r'.manager.active = snapshot) : Received snapshot r (.ok id) r'

end Realm

theorem Realm.chooseMatcher_rejected (given : Option Matcher) (registry : Registry) (s : Settings) :
    FailsAs (fun e => e.isRejection) (chooseMatcher given registry s) := by
  unfold chooseMatcher
  split
  · exact .ok _
  · exact Registry.find_rejected _ _ _

/-- **New settings** are rejected before anything is changed, or they take effect. -/
theorem Login.reconfigure_received (snapshot : Snapshot) (r : Realm) :
    Realm.Received snapshot r ((reconfigure snapshot).perform r).1 ((reconfigure snapshot).perform r).2 := by
  rw [reconfigure, Session.perform_bind_of_ok (Session.perform_get r)]
  rcases hmatcher : Realm.chooseMatcher r.givenMatcher r.manager.registry snapshot.settings with e | matcher
  · have hnothing : Realm.Received snapshot r (.error e) (r.noting []) :=
      .rejected e [] (Realm.chooseMatcher_rejected _ _ _ e hmatcher)
    rwa [Realm.noting_nil] at hnothing
  -- the realm changes its matcher only after the manager has taken the settings over
  rw [Session.perform_bind_of_ok (Session.perform_ofExcept (.ok matcher) r), Session.perform_bind, onManager,
    Session.perform_within]
  have hreceived := Managed.reconfigure_received snapshot r.manager
  rcases hrun : (Managed.reconfigure snapshot).perform r.manager with ⟨e | id, m⟩
  all_goals
    rw [hrun] at hreceived
    dsimp only at hreceived ⊢
  · cases hreceived with
    | rejected _ notes he => exact .rejected e notes he
    | accepted _ _ _ _ _ _ _ _ hinterrupted => exact .interrupted e _ (hinterrupted e rfl)
  · cases hreceived with
    | accepted _ _ _ _ _ _ hchoice => exact .accepted id _ (congrArg (fun choice => choice.2.1) hchoice)

/-! ## §2 Runs -/

namespace Scene

variable {scene : Scene}

/-- **One activity** replaces settings only by such that can be used. -/
theorem step_evolves (scene : Scene) (activity : Activity) :
    Evolves scene.realm.manager (scene.step activity).realm.manager := by
  -- an answer, a message and the use of a handle leave the active settings alone
  have hask {α : Type} (description : String) {x : Handle → Exchange (Option α)} (_ : Exchange.Uniform x) :
      (Login.onManager (answer description x)).Respects (Realm.Manages Evolves) :=
    Login.onManager_manages (evolves (answer_abides description x))
  have hsay (level : Level) (text : String) : (Login.say level text).Respects (Realm.Manages Evolves) :=
    Login.onManager_manages (evolves (abides fun _ => onWorld_upholds _))
  have huse {α : Type} (id : HandleId) (x : Handle → Exchange α) : (onHandle id x).Respects Evolves :=
    evolves (abides fun _ => onHandle_upholds id x)
  cases activity with
  | start => exact evolves start_abides _
  | stop => exact evolves (abides fun _ => shutdown_upholds) _
  | authenticate username password => exact Login.authenticate_respects hask hsay username password _
  | getPassword username => exact Login.getPassword_respects hask username _
  | getPrincipal username credential => exact Login.getPrincipal_respects hask username credential _
  | reconfigure snapshot =>
    exact Login.reconfigure_respects (Login.onManager_manages (reconfigure_evolves snapshot))
      (fun r _ => refl_of Evolves r.manager) _
  | acquire => exact evolves acquire_abides _
  | release id => exact evolves (abides fun _ => release_upholds id) _
  | close id => exact evolves (abides fun _ => close_upholds id) _
  | drainPool => exact evolves (abides fun _ => drainPool_upholds) _
  | openHandle id => exact evolves (abides fun _ => openHandle_upholds id) _
  | verify id user password => exact huse id _ _
  | getUser id username password index => exact huse id _ _
  | findUser id username => exact huse id _ _
  | rolesOf id user => exact huse id _ _
  | search id base filter controls => exact huse id _ _
  | read id dn names => exact huse id _ _
  | enter id name password =>
    -- whatever entering returns, the handle was used
    have hentered : (scene.enter id name password).realm =
        (scene.manage (onHandle id fun _ => Exchange.assumeUser name password)).realm := by
      rw [enter]
      dsimp only
      split <;> rfl
    rw [step, hentered]
    exact huse id _ _
  | leave id => exact huse id _ _
  | outside w =>
    have hframe : Manager.Upholds scene.realm.manager.active scene.realm.manager
        (scene.step (.outside w)).realm.manager := .ofFrame rfl rfl
    exact Manager.Abides.evolves hframe

/-- **In any run** of a realm, settings that can be used are only replaced by such. -/
theorem run_evolves (scene : Scene) (activities : List Activity) :
    Evolves scene.realm.manager (scene.run activities).realm.manager := by
  induction activities generalizing scene with
  | nil => exact refl_of Evolves _
  | cons activity rest ih => exact trans_of Evolves (scene.step_evolves activity) (ih _)

end Scene

theorem Realm.usable_of_create {registry : Registry} {snapshot : Snapshot} {given : Option Matcher} {w : World}
    {r : Realm} (hcreate : ((create registry snapshot given).perform w).1 = .ok r) : r.manager.Usable := by
  obtain ⟨_, chosen, templates, _, hchosen, htemplates, rfl⟩ := of_create_ok hcreate
  exact .of_new hchosen htemplates

/-! ## §3 Settings in use -/

/-- The failure does not reject settings, unless a fault that is due would bring it. -/
def World.Excuses (w : World) (e : Failure) : Prop :=
  e.isRejection = true → ∃ f ∈ w.faults, f.failure = some e

/-- Nothing that is asked of the realm fails because settings are rejected. -/
structure Realm.Unhindered (r : Realm) : Prop where
  acquire : FailsAs (fun e => e.isRejection = false) (acquire.perform r.manager).1
  release : ∀ id, FailsAs (fun e => e.isRejection = false) ((release id).perform r.manager).1
  /-- Neither does the login over a connection, before its failure is reported. -/
  login : ∀ username password, FailsAs r.manager.world.Excuses
    ((attemptTwice "authentication" fun h => Exchange.authenticate h r.matcher username password).perform r.manager).1
  /-- And the login as a whole is at most interrupted. -/
  authenticate : ∀ username password, FailsAs (fun e => e.isOrdinary = false)
    ((Login.authenticate username password).perform r).1

/-- What a realm answers is at most interrupted. -/
theorem Managed.answer_interrupted {α : Type} (description : String) (x : Handle → Exchange (Option α)) :
    (answer description x).Confines (fun _ => True) fun e => e.isOrdinary = false := by
  have hany : (attemptTwice description x).Confines (fun _ => True) fun _ => True :=
    fun _ _ => ⟨fun _ _ => trivial, trivial⟩
  refine .rescue hany (fun e _ hpass => ?_) fun e y hy => ?_
  · split at hpass
    · cases hpass
    · exact Bool.eq_false_iff.mpr ‹_›
  · split at hy
    · cases hy
      exact .bind (fun _ _ => ⟨.ok _, trivial⟩) fun _ => .pure _
    · cases hy

theorem Login.authenticate_interrupted (username : Option String) (password : Option Password) :
    (authenticate username password).Confines (fun _ => True) fun e => e.isOrdinary = false := by
  refine .bind ?_ fun _ => .pure _
  have hsay (level : Level) (text : String) :
      (say level text).Confines (fun _ => True) fun e => e.isOrdinary = false :=
    fun _ _ => ⟨.ok _, trivial⟩
  unfold grant
  split
  · -- a name and a password: the program is run, and its verdict is written down
    refine .bind .get fun r => .bind ?_ fun granted => ?_
    · exact .within (answer_interrupted _ _) (fun _ _ => trivial) fun _ _ _ _ => trivial
    · split
      · exact .bind (hsay _ _) fun _ => .pure _
      · exact .bind (hsay _ _) fun _ => .pure _
  · exact .pure _

/-- **Settings that can be used** are never rejected. -/
theorem Realm.unhindered_of_usable {r : Realm} (hr : r.manager.Usable) : r.Unhindered := by
  obtain ⟨templates, htemplates⟩ := hr.compiled
  refine ⟨acquire_unrejected htemplates, fun id => (release_unrejected id r.manager trivial).1,
    fun username password => ?_, fun username password => (Login.authenticate_interrupted _ _ r trivial).1⟩
  have hbrings : r.manager.Brings r.manager.world.Excuses := fun f hf e he _ => ⟨f, hf, he⟩
  refine attemptTwice_confines (fun e he hrejection => ?_) (fun h => Exchange.Orderly.authenticate) htemplates
    hbrings _
  rw [he] at hrejection
  cases hrejection

/-! ## §4 The theorem -/

/-- **A rejection changes nothing.** Take a realm at any time in any run, and new settings. If they are not accepted,
and it is not for an interrupt, then the failure says why they are rejected, and the realm is as it was before, with its
world: nothing was sent, and all that there may be is messages. If they are accepted, they are the active ones, and
whatever is done from then on, acquiring and giving back and logging in never fail because settings are rejected. -/
theorem rejected_settings_change_nothing {registry : Registry} {initial : Snapshot} {given : Option Matcher} {w : World}
    {r : Realm} (hcreate : ((Realm.create registry initial given).perform w).1 = .ok r) (before : List Activity)
    {scene : Scene} (hscene : Scene.run { realm := r } before = scene) (snapshot : Snapshot) :
    (∀ e r', (Login.reconfigure snapshot).perform scene.realm = (.error e, r') → e.isOrdinary = true →
      e.isRejection = true ∧ ∃ notes, r' = scene.realm.noting notes) ∧
    ∀ id r', (Login.reconfigure snapshot).perform scene.realm = (.ok id, r') →
      r'.manager.active = snapshot ∧
        ∀ after, ((scene.step (.reconfigure snapshot)).run after).realm.Unhindered := by
  have hreceived := Login.reconfigure_received snapshot scene.realm
  refine ⟨fun e r' hrun hordinary => ?_, fun id r' hrun => ⟨?_, fun after => Realm.unhindered_of_usable ?_⟩⟩
  · rw [hrun] at hreceived
    cases hreceived with
    | rejected _ notes he => exact ⟨he, notes, rfl⟩
    | interrupted _ _ he =>
      rw [hordinary] at he
      cases he
  · rw [hrun] at hreceived
    cases hreceived with
    | accepted _ _ hactive => exact hactive
  · -- all of it is one run, from the beginning on
    have hevolves := Scene.run_evolves { realm := r } (before ++ .reconfigure snapshot :: after)
    rw [Scene.run, List.foldl_append, List.foldl_cons] at hevolves
    rw [← hscene]
    exact hevolves.usable (Realm.usable_of_create hcreate)

/-! ### A run -/

/-- Settings with a pattern that is never closed. -/
def Snapshot.unclosed : Snapshot :=
  ⟨1, { Settings.ofService 0 with userPattern := some "(uid={0}" }⟩

/-- After a login, settings are rejected, and others are accepted. -/
theorem unclosed_pattern_rejected :
    ∃ r scene, ((Realm.create {} ⟨0, .ofService 1⟩ none).perform .ofService).1 = .ok r ∧
      Scene.run { realm := r } [.authenticate (some "ada") (some "pearl")] = scene ∧
      (∃ e r' notes, (Login.reconfigure .unclosed).perform scene.realm = (.error e, r') ∧ e.isRejection = true ∧
        r' = scene.realm.noting notes) ∧
      ∃ id r', (Login.reconfigure ⟨2, .ofService 3⟩).perform scene.realm = (.ok id, r') ∧
        ((scene.step (.reconfigure ⟨2, .ofService 3⟩)).run [.acquire, .reconfigure .unclosed]).realm.Unhindered := by
  have hrun : (((Realm.create {} ⟨0, .ofService 1⟩ none).perform .ofService).1.toOption.any fun r =>
      let scene := Scene.run { realm := r } [.authenticate (some "ada") (some "pearl")]
      !((Login.reconfigure .unclosed).perform scene.realm).1.toOption.isSome &&
      decide (FailsOrdinarily ((Login.reconfigure .unclosed).perform scene.realm).1) &&
      ((Login.reconfigure ⟨2, .ofService 3⟩).perform scene.realm).1.toOption.isSome) = true := by decide +kernel
  obtain ⟨r, hcreate, hrun⟩ := exists_ok_of_any hrun
  simp only [Bool.and_eq_true, Bool.not_eq_true', decide_eq_true_eq] at hrun
  obtain ⟨⟨hrejected, hordinary⟩, haccepted⟩ := hrun
  -- both halves of the theorem, after one login
  refine ⟨r, _, hcreate, rfl, ?_, ?_⟩
  · have hrule := (rejected_settings_change_nothing hcreate [.authenticate (some "ada") (some "pearl")] rfl .unclosed).1
    rcases hreceived : (Login.reconfigure .unclosed).perform (Scene.run { realm := r }
      [.authenticate (some "ada") (some "pearl")]).realm with ⟨e | id, r'⟩
    · rw [hreceived] at hordinary
      obtain ⟨he, notes, hsame⟩ := hrule e r' hreceived (hordinary e rfl)
      exact ⟨e, r', notes, rfl, he, hsame⟩
    · rw [hreceived] at hrejected
      cases hrejected
  · have hrule := (rejected_settings_change_nothing hcreate [.authenticate (some "ada") (some "pearl")] rfl
      ⟨2, .ofService 3⟩).2
    rcases hreceived : (Login.reconfigure ⟨2, .ofService 3⟩).perform (Scene.run { realm := r }
      [.authenticate (some "ada") (some "pearl")]).realm with ⟨e | id, r'⟩
    · rw [hreceived] at haccepted
      cases haccepted
    · exact ⟨id, r', rfl, (hrule id r' hreceived).2 _⟩

end DirectoryLogin

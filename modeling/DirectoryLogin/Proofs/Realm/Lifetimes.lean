import DirectoryLogin.Proofs.Manager.Lifetimes
import DirectoryLogin.Proofs.Realm.EncryptedConnections
/-!
# Nothing Is Sent outside a Life

Connections are closed from many places: after a failed bind, upgrade or request, when the pool is full or drained, when
settings change, and at the end. In any run, whatever fails, nothing is sent on a wire before it has been opened or
after it has been ended. The one exception is a request to end it that was interrupted, since the handle then keeps the
connection.

- `Scene.outcomes`: what was sent in a run, and what became of it in the end.
- `Scene.step_advances`: every activity is a sequence of steps of the manager.
- `requests_within_life`: the rule holds on every wire.
-/

namespace DirectoryLogin

open Manager (Advances)
open Heard (Uninterrupted)

/-! ## §1 Activities step by step -/

namespace Login

variable {next : Snapshot → Prop} {α : Type}

theorem answer_advances (description : String) {x : Handle → Exchange (Option α)} (hx : Exchange.Uniform x) :
    (onManager (Managed.answer description x)).Respects (Realm.Manages (Advances next)) :=
  onManager_manages (Managed.answer_advances (fun h => (hx.orderly h).uses) description)

theorem say_advances (level : Level) (text : String) :
    (say level text).Respects (Realm.Manages (Advances next)) :=
  onManager_manages (Managed.write_advances _)

end Login

/-- The snapshots that an activity may make the active one. -/
def Activity.activates : Activity → Snapshot → Prop
  | .reconfigure snapshot => (· = snapshot)
  | _ => fun _ => False

namespace Scene

variable {scene : Scene} {t : List Heard} {activity : Activity} {activities : List Activity}

/-- **Every activity** of the realm is a sequence of steps of its manager. -/
theorem step_advances (scene : Scene) (hinside : ∀ w, activity ≠ .outside w) :
    Advances activity.activates scene.realm.manager (scene.step activity).realm.manager := by
  -- whatever is done over a handle uses its connection
  have hmanage {α : Type} {next : Snapshot → Prop} (id : HandleId) {x : Handle → Exchange α}
      (hx : ∀ h, (x h).Respects Channel.Uses) :
      Advances next scene.realm.manager (scene.manage (Managed.onHandle id x)).realm.manager :=
    Managed.onHandle_advances id hx scene.realm.manager
  cases activity with
  | start => exact Managed.start_advances _
  | stop => exact Managed.shutdown_advances _
  | authenticate username password =>
    exact Login.authenticate_respects Login.answer_advances Login.say_advances username password _
  | getPassword username => exact Login.getPassword_respects Login.answer_advances username _
  | getPrincipal username credential => exact Login.getPrincipal_respects Login.answer_advances username credential _
  | reconfigure snapshot =>
    -- only here are other settings activated
    have hreconfigure : (Managed.reconfigure snapshot).Respects (Advances (Activity.reconfigure snapshot).activates) :=
      Managed.reconfigure_advances rfl
    exact Login.reconfigure_respects (Login.onManager_manages hreconfigure)
      (fun r _ => refl_of (Advances _) r.manager) scene.realm
  | acquire => exact Managed.acquire_advances _
  | release id => exact Managed.release_advances id _
  | close id => exact Managed.close_advances id _
  | drainPool => exact Managed.drainPool_advances _
  | openHandle id => exact Managed.openHandle_advances id _
  | verify id user password => exact hmanage id fun _ => Exchange.Orderly.verify.uses
  | getUser id username password index => exact hmanage id fun _ => Exchange.Orderly.getUser.uses
  | findUser id username => exact hmanage id fun _ => Exchange.Orderly.findUser.uses
  | rolesOf id user => exact hmanage id fun _ => Exchange.Orderly.rolesOf.uses
  | search id base filter controls => exact hmanage id fun h => (Exchange.Orderly.search (s := h.settings)).uses
  | read id dn names => exact hmanage id fun h => (Exchange.Orderly.read (s := h.settings)).uses
  | enter id name password =>
    have hentered : Advances (Activity.enter id name password).activates scene.realm.manager
        (scene.manage (Managed.onHandle id fun _ => Exchange.assumeUser name password)).realm.manager :=
      hmanage id fun _ => Exchange.edit_uses _
    rw [Scene.step, Scene.enter]
    dsimp only
    split
    · exact hentered
    · exact hentered
  | leave id => exact hmanage id fun _ => Exchange.edit_uses _
  | outside w => exact absurd rfl (hinside w)

/-! ## §2 Runs -/

/-- What was sent during an activity, and what became of it in the end. -/
def outcome (scene : Scene) (activity : Activity) : List Heard :=
  (scene.heard activity).map (Heard.settledBy scene.world.directory)

/-- What was sent in a run, and what became of it in the end. -/
def outcomes (scene : Scene) : List Activity → List Heard
  | [] => []
  | activity :: rest => scene.outcome activity ++ (scene.step activity).outcomes rest

/-- The monitor of lives has followed the transcript, and connections go to the directory. -/
structure Attended (registry : Registry) (t : List Heard) (scene : Scene) : Prop where
  registry : scene.realm.manager.registry = registry
  connector : scene.realm.manager.connector = .standard
  alive : scene.realm.manager.Alive t

variable {registry : Registry}

/-- **One activity**, however it ends. -/
theorem Attended.step (ha : scene.Attended registry t) (hrecord : scene.KeepsRecord activity)
    (hnext : ∀ snapshot, activity.activates snapshot → registry.ChoosesStandard snapshot.settings)
    (hcalm : Uninterrupted (scene.outcome activity)) :
    (scene.step activity).world.events = scene.world.events ++ (scene.outcome activity).map (·.event) ∧
      (scene.step activity).Attended registry (t ++ scene.outcome activity) := by
  by_cases hinside : ∀ w, activity ≠ .outside w
  · have hadvances := scene.step_advances hinside
    obtain ⟨hconnector, es, hes, hkeeps⟩ := hadvances.sustains (ha.registry ▸ hnext) ha.connector
    -- the steps tell some transcript, but the record leaves only one
    obtain rfl : es = scene.outcome activity := hes.eq_heard
    exact ⟨hes.events, hadvances.registry.trans ha.registry, hconnector, hkeeps hcalm t ha.alive⟩
  · obtain ⟨w, hw⟩ := not_forall_not.mp hinside
    subst hw
    obtain ⟨hevents, hlength⟩ := hrecord
    rw [outcome, scene.heard_outside hevents, List.map_nil, List.map_nil, List.append_nil, List.append_nil]
    exact ⟨hevents, ha.registry, ha.connector, ha.alive.frame (fun _ _ h => h) hlength⟩

/-- **A run**: the transcript leaves nothing out, and the monitor follows it. -/
theorem Attended.run (ha : scene.Attended registry t) (hrecord : scene.OnRecord activities)
    (hnext : ∀ snapshot, .reconfigure snapshot ∈ activities → registry.ChoosesStandard snapshot.settings)
    (hcalm : Uninterrupted (scene.outcomes activities)) :
    (scene.run activities).world.events = scene.world.events ++ (scene.outcomes activities).map (·.event) ∧
      (scene.run activities).Attended registry (t ++ scene.outcomes activities) := by
  induction activities generalizing scene t with
  | nil =>
    rw [outcomes, List.map_nil, List.append_nil, List.append_nil]
    exact ⟨rfl, ha⟩
  | cons activity rest ih =>
    obtain ⟨hcalm, hcalm'⟩ := List.forall_mem_append.mp hcalm
    -- the settings that an activity activates are those it was given
    have hactivates (snapshot : Snapshot) (h : activity.activates snapshot) :
        registry.ChoosesStandard snapshot.settings := by
      cases activity with
      | reconfigure s =>
        obtain rfl : snapshot = s := h
        exact hnext snapshot List.mem_cons_self
      | _ => exact absurd h not_false
    obtain ⟨hevents, hstep⟩ := ha.step hrecord.1 hactivates hcalm
    obtain ⟨hevents', hrun⟩ := ih hstep hrecord.2 (fun s hs => hnext s (List.mem_cons_of_mem _ hs)) hcalm'
    rw [outcomes, List.map_append, ← List.append_assoc, ← List.append_assoc, ← hevents]
    exact ⟨hevents', hrun⟩

/-- A new realm has no connections. -/
theorem attended_of_create {snapshot : Snapshot} {given : Option Matcher} {w : World} {r : Realm}
    (hcreate : ((Realm.create registry snapshot given).perform w).1 = .ok r)
    (hstandard : registry.ChoosesStandard snapshot.settings) : Attended registry [] { realm := r } := by
  obtain ⟨_, chosen, _, _, hchosen, _, rfl⟩ := Realm.of_create_ok hcreate
  exact ⟨rfl, hstandard.connector hchosen,
    ⟨fun _ => ⟨.unborn, rfl⟩, List.forall_mem_nil _, fun _ _ hc => (nomatch hc), fun _ _ _ _ hc => (nomatch hc)⟩⟩

end Scene

/-! ## §3 The theorem -/

/-- **Nothing is sent outside a life.** Take any run of a new realm whose settings choose connections to the directory,
in which the record is left alone and no request to end a connection is interrupted. Then the transcript is the record
together with what became of each request in the end; and on every wire, whatever is sent comes after an opening that
succeeded, and nothing comes after a request to end the connection, not even a second one. -/
theorem requests_within_life {registry : Registry} {snapshot : Snapshot} {given : Option Matcher} {w : World}
    {r : Realm} (hcreate : ((Realm.create registry snapshot given).perform w).1 = .ok r)
    (hstandard : registry.ChoosesStandard snapshot.settings) {activities : List Activity}
    (hnext : ∀ later, .reconfigure later ∈ activities → registry.ChoosesStandard later.settings)
    (hrecord : Scene.OnRecord { realm := r } activities)
    (hcalm : Uninterrupted (Scene.outcomes { realm := r } activities)) :
    (Scene.run { realm := r } activities).world.events =
        r.manager.world.events ++ (Scene.outcomes { realm := r } activities).map (·.event) ∧
      ∀ n, Heard.WithinLife (Heard.onWire n (Scene.outcomes { realm := r } activities)) := by
  obtain ⟨hevents, hattended⟩ := (Scene.attended_of_create hcreate hstandard).run hrecord hnext hcalm
  refine ⟨hevents, fun n => ?_⟩
  obtain ⟨l, hlife⟩ := hattended.alive.lives n
  exact Life.withinLife hlife

/-! ### A run -/

/-- The connection breaks when the second password is checked, and even its end cannot be requested then. -/
def World.brittle : World :=
  { World.ofService with
    faults := [⟨some .bind, 4, some (.client ⟨"LDAPSocketSendError", "broken pipe"⟩)⟩,
      ⟨some .unbind, 2, some (.client ⟨"LDAPSocketSendError", "broken pipe"⟩)⟩] }

/-- The pool is given up while two connections are out, and they are closed when they come back. -/
def Activity.crowded : List Activity :=
  [.start, .authenticate (some "ada") (some "pearl"), .acquire, .acquire, .reconfigure ⟨1, .ofService 1⟩, .release 0,
    .close 1, .authenticate (some "ada") (some "pearl"), .stop]

/-- Four connections live and end; on the third one the check of the password and the request to end it have failed. -/
theorem crowded_within_life :
    ∃ r, ((Realm.create {} ⟨0, .ofService 2⟩ none).perform .brittle).1 = .ok r ∧
      (Scene.outcomes { realm := r } Activity.crowded).map (·.event.wire) =
        [1, 1, 1, 1, 2, 2, 1, 2, 3, 3, 3, 3, 4, 4, 4, 4, 4] ∧
      ∀ n, Heard.WithinLife (Heard.onWire n (Scene.outcomes { realm := r } Activity.crowded)) := by
  have hrun : (((Realm.create {} ⟨0, .ofService 2⟩ none).perform .brittle).1.toOption.any fun r =>
      let outcomes := Scene.outcomes { realm := r } Activity.crowded
      (outcomes.all fun x =>
          x.event.request.call? != some .unbind || x.verdict.mapError Failure.isOrdinary != .error false) &&
        outcomes.map (·.event.wire) == [1, 1, 1, 1, 2, 2, 1, 2, 3, 3, 3, 3, 4, 4, 4, 4, 4]) = true := by
    decide +kernel
  obtain ⟨r, hcreate, hrun⟩ := exists_ok_of_any hrun
  obtain ⟨hends, hwires⟩ := Bool.and_eq_true_iff.mp hrun
  -- no request to end a wire was interrupted
  have hcalm : Uninterrupted (Scene.outcomes { realm := r } Activity.crowded) := by
    intro x hx hunbind e he
    have hordinary := List.all_eq_true.mp hends x hx
    rw [hunbind, he] at hordinary
    rcases hfailure : e.isOrdinary with _ | _
    · rw [Except.mapError, hfailure] at hordinary
      cases hordinary
    · rfl
  have hstandard (s : Settings) : Registry.ChoosesStandard {} s := .of_forall (by decide) s
  have hrecord : Scene.OnRecord { realm := r } Activity.crowded := by
    simp [Activity.crowded, Scene.OnRecord, Scene.KeepsRecord]
  obtain ⟨-, hlives⟩ :=
    requests_within_life hcreate (hstandard _) (fun later _ => hstandard later.settings) hrecord hcalm
  exact ⟨r, hcreate, eq_of_beq hwires, hlives⟩

end DirectoryLogin

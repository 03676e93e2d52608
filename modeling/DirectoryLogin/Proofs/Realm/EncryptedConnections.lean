import DirectoryLogin.Proofs.Manager.Encrypting
import DirectoryLogin.Proofs.Realm.HistoryIndependence
/-!
# No Credentials before Encryption

Settings may ask for connections to be encrypted, and new settings may say otherwise at any time. What counts for a
connection are the settings under which it is opened. If they ask for encryption, the first request after the wire was
opened is the one for the upgrade, and nothing that could give something away is sent unless the upgrade was accepted.
This holds whatever is done with the connection later, and under which settings.

- `Scene.transcript`: what was sent in a run, and what became of it.
- `Scene.Watched.step`: the monitor of phases follows every activity.
- `no_credentials_before_encryption`: the rule holds on every wire that is opened while the settings ask for encryption.
-/

namespace DirectoryLogin

open Manager (Conducts Monitored Resettles)

/-! ## §1 Calls of the realm -/

/-- A relation of managers, seen from their realms. -/
def Realm.Manages (R : Manager → Manager → Prop) (r r' : Realm) : Prop :=
  R r.manager r'.manager

instance (R : Manager → Manager → Prop) [IsPreorder Manager R] : IsPreorder Realm (Realm.Manages R) where
  refl r := refl_of R r.manager
  trans _ _ _ h g := trans_of R h g

namespace Login

variable {α : Type}

theorem onManager_manages {R : Manager → Manager → Prop} {x : Managed α} (hx : x.Respects R) :
    (onManager x).Respects (Realm.Manages R) :=
  fun r => hx r.manager

theorem answer_conducts (description : String) {x : Handle → Exchange (Option α)} (hx : Exchange.Uniform x) :
    (onManager (Managed.answer description x)).Respects (Realm.Manages (Conducts Request.OpensWith)) :=
  onManager_manages (Managed.answer_conducts (fun h => (hx.orderly h).converses) description)

theorem say_conducts (level : Level) (text : String) :
    (say level text).Respects (Realm.Manages (Conducts Request.OpensWith)) :=
  onManager_manages (Managed.write_conducts _)

theorem reconfigure_resettles (snapshot : Snapshot) : (reconfigure snapshot).Respects (Realm.Manages Resettles) :=
  reconfigure_respects (onManager_manages (Managed.reconfigure_resettles snapshot)) fun r _ =>
    refl_of Resettles r.manager

end Login

/-! ## §2 Runs on record -/

namespace Scene

variable {scene : Scene} {t : List Heard} {activity : Activity} {activities : List Activity}

/-- The world in which the realm is. -/
def world (scene : Scene) : World :=
  scene.realm.manager.world

/-- What was sent during an activity, and what became of it. -/
def heard (scene : Scene) (activity : Activity) : List Heard :=
  scene.world.heard (scene.step activity).world

/-- What was sent in a run, and what became of it. -/
def transcript (scene : Scene) : List Activity → List Heard
  | [] => []
  | activity :: rest => scene.heard activity ++ (scene.step activity).transcript rest

theorem transcript_append (scene : Scene) (before after : List Activity) :
    scene.transcript (before ++ after) = scene.transcript before ++ (scene.run before).transcript after := by
  induction before generalizing scene with
  | nil => rfl
  | cons activity rest ih =>
    rw [List.cons_append, transcript, ih, transcript, List.append_assoc, run, run, List.foldl_cons]

/-- A change outside leaves the record as it is, and takes no wire away. Directories, faults and wires of others may
come and go. -/
def KeepsRecord (scene : Scene) : Activity → Prop
  | .outside w => w.events = scene.world.events ∧ scene.world.wires.length ≤ w.wires.length
  | _ => True

/-- Nothing is sent while the world changes. -/
theorem heard_outside (scene : Scene) {w : World} (hevents : w.events = scene.world.events) :
    scene.heard (.outside w) = [] := by
  have hdrop : w.events.drop scene.world.events.length = [] := by rw [hevents, List.drop_length]
  change (Fault.hear scene.world.faults (w.events.drop scene.world.events.length)).1 = []
  rw [hdrop]
  rfl

/-- Along a run, nothing outside changes the record. -/
def OnRecord (scene : Scene) : List Activity → Prop
  | [] => True
  | activity :: rest => scene.KeepsRecord activity ∧ (scene.step activity).OnRecord rest

theorem onRecord_append_iff {before after : List Activity} :
    scene.OnRecord (before ++ after) ↔ scene.OnRecord before ∧ (scene.run before).OnRecord after := by
  induction before generalizing scene with
  | nil => exact iff_of_eq (true_and _).symm
  | cons activity rest ih => rw [List.cons_append, OnRecord, ih, OnRecord, and_assoc, run, run, List.foldl_cons]

/-! ## §3 One activity -/

/-- The monitor has followed the transcript on every wire, and connections are encrypted as the active settings say. -/
structure Watched (t : List Heard) (scene : Scene) : Prop where
  monitored : Monitored t scene.realm.manager
  policed : scene.realm.manager.Policed

/-- What is seen of an activity: the record grows by what is heard, wires are opened as the settings say that are active
before and afterwards, and the monitor follows. -/
structure Observed (t : List Heard) (scene : Scene) (activity : Activity) : Prop where
  record : (scene.step activity).world.events = scene.world.events ++ (scene.heard activity).map (·.event)
  opens : ∀ x ∈ scene.heard activity, x.event.request.OpensWith scene.realm.settings.useStartTls ∧
    x.event.request.OpensWith (scene.step activity).realm.settings.useStartTls
  watched : (scene.step activity).Watched (t ++ scene.heard activity)

/-- The manager has gone on for the same settings. -/
theorem Watched.conducts (hw : scene.Watched t)
    (hstep : Conducts Request.OpensWith scene.realm.manager (scene.step activity).realm.manager) :
    scene.Observed t activity := by
  obtain ⟨hrecord, hopens, hkeeps⟩ := hstep.guards.transcribed
  have hsettings : (scene.step activity).realm.settings = scene.realm.settings :=
    congrArg Snapshot.settings hstep.active
  refine ⟨hrecord, fun x hx => ?_, hkeeps t hw.monitored, hstep.policed hw.policed⟩
  have hopen := hopens x hx
  rw [hw.policed] at hopen
  rw [hsettings]
  exact ⟨hopen, hopen⟩

/-- The manager has gone on, maybe for other settings. -/
theorem Watched.resettles (hw : scene.Watched t)
    (hstep : Resettles scene.realm.manager (scene.step activity).realm.manager) : scene.Observed t activity := by
  obtain ⟨hrecord, hopens, hkeeps⟩ := hstep.guards.transcribed
  exact ⟨hrecord, fun x hx => ⟨(hopens x hx).opensWith _, (hopens x hx).opensWith _⟩, hkeeps t hw.monitored,
    hstep.policed hw.policed⟩

/-- The world has changed, but not the record. -/
theorem Watched.outside (hw : scene.Watched t) {w : World} (hrecord : scene.KeepsRecord (.outside w)) :
    scene.Observed t (.outside w) := by
  obtain ⟨hevents, hlength⟩ := hrecord
  have hnothing := scene.heard_outside hevents
  refine ⟨?_, ?_, ?_, hw.policed⟩
  · rw [hnothing, List.map_nil, List.append_nil]
    exact hevents
  · rw [hnothing]
    exact List.forall_mem_nil _
  · rw [hnothing, List.append_nil]
    exact hw.monitored.frame (fun _ _ h => h) hlength

/-- A program has been run on the connection of a handle. -/
theorem Watched.use {α : Type} (hw : scene.Watched t) (id : HandleId) {x : Handle → Exchange α}
    (hx : ∀ h, (x h).Respects (Channel.Converses fun request => request.isService = true))
    (hstep : (scene.step activity).realm = (scene.manage (Managed.onHandle id x)).realm) : scene.Observed t activity :=
  hw.conducts (by
    rw [hstep]
    exact Managed.onHandle_conducts (fun _ _ => .of_isService) id hx scene.realm.manager)

/-- **One activity**, however it ends: what it sends is as it may be. -/
theorem Watched.step (hw : scene.Watched t) (hrecord : scene.KeepsRecord activity) : scene.Observed t activity := by
  cases activity with
  | start => exact hw.conducts (Managed.start_conducts _)
  | stop => exact hw.conducts (Managed.shutdown_conducts (fun _ _ => .of_isService) _)
  | authenticate username password =>
    exact hw.conducts (Login.authenticate_respects Login.answer_conducts Login.say_conducts username password _)
  | getPassword username => exact hw.conducts (Login.getPassword_respects Login.answer_conducts username _)
  | getPrincipal username credential =>
    exact hw.conducts (Login.getPrincipal_respects Login.answer_conducts username credential _)
  | reconfigure snapshot => exact hw.resettles (Login.reconfigure_resettles snapshot _)
  | acquire => exact hw.conducts (Managed.acquire_conducts _)
  | release id => exact hw.conducts (Managed.release_conducts (fun _ _ => .of_isService) id _)
  | close id => exact hw.conducts (Managed.close_conducts (fun _ _ => .of_isService) id _)
  | drainPool => exact hw.conducts (Managed.drainPool_conducts (fun _ _ => .of_isService) _)
  | openHandle id => exact hw.conducts (Managed.openHandle_conducts id _)
  | verify id user password => exact hw.use id (fun _ => Exchange.Orderly.verify.converses) rfl
  | getUser id username password index => exact hw.use id (fun _ => Exchange.Orderly.getUser.converses) rfl
  | findUser id username => exact hw.use id (fun _ => Exchange.Orderly.findUser.converses) rfl
  | rolesOf id user => exact hw.use id (fun _ => Exchange.Orderly.rolesOf.converses) rfl
  | search id base filter controls =>
    exact hw.use id (fun h => (Exchange.Orderly.search (s := h.settings)).converses) rfl
  | read id dn names => exact hw.use id (fun h => (Exchange.Orderly.read (s := h.settings)).converses) rfl
  | enter id name password =>
    -- entering edits the environment only, whatever it returns
    refine hw.use id (x := fun _ => Exchange.assumeUser name password) (fun _ => Exchange.edit_converses _) ?_
    rw [Scene.step, Scene.enter]
    dsimp only
    split <;> rfl
  | leave id => exact hw.use id (fun _ => Exchange.edit_converses _) rfl
  | outside w => exact hw.outside hrecord

/-! ## §4 Runs -/

/-- **A run on record**: the transcript leaves nothing out, and the monitor follows it. -/
theorem Watched.run (hw : scene.Watched t) (hrecord : scene.OnRecord activities) :
    (scene.run activities).world.events = scene.world.events ++ (scene.transcript activities).map (·.event) ∧
      (scene.run activities).Watched (t ++ scene.transcript activities) := by
  induction activities generalizing scene t with
  | nil =>
    rw [transcript, List.map_nil, List.append_nil, List.append_nil]
    exact ⟨rfl, hw⟩
  | cons activity rest ih =>
    have hstep := hw.step hrecord.1
    obtain ⟨hevents, hwatched⟩ := ih hstep.watched hrecord.2
    rw [transcript, List.map_append, ← List.append_assoc, ← List.append_assoc, ← hstep.record]
    exact ⟨hevents, hwatched⟩

/-- A new realm has no connections, and follows its settings. -/
theorem watched_of_create {registry : Registry} {snapshot : Snapshot} {given : Option Matcher} {w : World} {r : Realm}
    (hcreate : ((Realm.create registry snapshot given).perform w).1 = .ok r) : Watched [] { realm := r } := by
  obtain ⟨_, chosen, _, _, hchosen, _, rfl⟩ := Realm.of_create_ok hcreate
  exact ⟨⟨fun _ => ⟨.new, rfl⟩, List.forall_mem_nil _, fun _ _ hc => nomatch hc⟩, Manager.tls_of_collaborators hchosen⟩

end Scene

/-! ## §5 The theorem -/

/-- **No credentials before encryption.** In any run of a new realm in which the record is left alone, the transcript
is the record together with what became of each request. And take any wire that was opened, with whatever success, in
an activity before or after which the active settings ask for encryption: if anything has been sent after it was opened,
the first of it is the request for the upgrade; every bind and every search on it comes after an upgrade that was
accepted; and when an upgrade has failed or was refused, there is no bind and no search on it at all. -/
theorem no_credentials_before_encryption {registry : Registry} {snapshot : Snapshot} {given : Option Matcher}
    {w : World} {r : Realm} (hcreate : ((Realm.create registry snapshot given).perform w).1 = .ok r)
    {before after : List Activity} {activity : Activity}
    (hrecord : Scene.OnRecord { realm := r } (before ++ activity :: after)) {x : Heard} {request : OpenRequest}
    (hx : x ∈ (Scene.run { realm := r } before).heard activity) (hconnect : x.event.request = .connect request)
    (hsettings : (Scene.run { realm := r } before).realm.settings.useStartTls = true ∨
      ((Scene.run { realm := r } before).step activity).realm.settings.useStartTls = true) :
    (Scene.run { realm := r } (before ++ activity :: after)).world.events =
        r.manager.world.events ++ (Scene.transcript { realm := r } (before ++ activity :: after)).map (·.event) ∧
      Heard.EncryptsFirst
        (Heard.onWire x.event.wire (Scene.transcript { realm := r } (before ++ activity :: after))) := by
  have hnew := Scene.watched_of_create hcreate
  obtain ⟨hevents, hwatched⟩ := hnew.run hrecord
  refine ⟨hevents, ?_⟩
  -- the wire is opened to be encrypted
  obtain ⟨hbefore, hactivity, -⟩ := Scene.onRecord_append_iff.mp hrecord
  obtain ⟨hold, hnow⟩ := ((hnew.run hbefore).2.step hactivity).opens x hx
  rw [hconnect] at hold hnow
  have htls : request.tls.isSome = true := hsettings.elim hold.trans hnow.trans
  -- and the monitor follows what is sent on it
  obtain ⟨p, hphase⟩ := hwatched.monitored.phases x.event.wire
  rw [List.nil_append] at hphase
  refine Phase.encryptsFirst hphase (List.mem_filter.mpr ⟨?_, beq_self_eq_true _⟩) hconnect htls
  rw [Scene.transcript_append]
  exact List.mem_append_right _ (List.mem_append_left _ hx)

/-! ### A run -/

/-- A world in which the first upgrade is refused. -/
def World.reluctant : World :=
  { World.ofService with faults := [⟨some .startTls, 0, none⟩] }

/-- Encryption is given up for a time, and then asked for again. -/
def Activity.wavering : List Activity :=
  [.start, .authenticate (some "ada") (some "pearl"), .reconfigure ⟨1, .ofService 2⟩,
    .authenticate (some "ada") (some "pearl"),
    .reconfigure ⟨2, { Settings.ofService 2 with useStartTls := true }⟩, .getPrincipal (some "ada") .null,
    .authenticate (some "ada") (some "pearl")]

/-- Over the last wire a password is sent, but not before the upgrade. -/
theorem wavering_settings_encrypt_first :
    ∃ r, ((Realm.create {} ⟨0, { Settings.ofService 0 with useStartTls := true }⟩ none).perform .reluctant).1 = .ok r ∧
      Heard.EncryptsFirst (Heard.onWire 4 (Scene.transcript { realm := r } Activity.wavering)) ∧
      ∃ y ∈ Heard.onWire 4 (Scene.transcript { realm := r } Activity.wavering), y.event.request.isSensitive = true := by
  have hrun : (((Realm.create {} ⟨0, { Settings.ofService 0 with useStartTls := true }⟩ none).perform
      .reluctant).1.toOption.any fun r =>
        let scene := Scene.run { realm := r } (Activity.wavering.take 5)
        scene.realm.settings.useStartTls &&
          ((scene.heard (.getPrincipal (some "ada") .null)).any fun x =>
            x.event.wire == 4 && x.event.request.call? == some .connect) &&
          (Heard.onWire 4 (Scene.transcript { realm := r } Activity.wavering)).any (·.event.request.isSensitive)) =
      true := by decide +kernel
  obtain ⟨r, hcreate, hrun⟩ := exists_ok_of_any hrun
  simp only [Bool.and_eq_true, List.any_eq_true] at hrun
  obtain ⟨⟨hsettings, x, hx, hwire, hopened⟩, hsensitive⟩ := hrun
  obtain ⟨request, hrequest⟩ := Request.exists_eq_connect (eq_of_beq hopened)
  -- the settings change after the wire was opened, and the record is left alone
  have hrecord : Scene.OnRecord { realm := r }
      (Activity.wavering.take 5 ++ .getPrincipal (some "ada") .null :: Activity.wavering.drop 6) := by
    simp [Activity.wavering, Scene.OnRecord, Scene.KeepsRecord]
  have hrule := (no_credentials_before_encryption hcreate hrecord hx hrequest (.inl hsettings)).2
  rw [eq_of_beq hwire] at hrule
  exact ⟨r, hcreate, hrule, hsensitive⟩

end DirectoryLogin

import DirectoryLogin.Proofs.Manager.Choosing
import DirectoryLogin.Proofs.Realm.EncryptedConnections
/-!
# Under Which Settings Handles Are Opened

A handle keeps the snapshot it was made for, and it may be opened much later: between taking a handle and opening it,
or after new settings have been given a handle that nobody has opened yet, other settings may have become the active
ones. The URL and the identity are then those of the handle, while the kind of the connection and its encryption are
those of the settings that are active. Only for a handle of the active settings they are all of one piece.

- `Manager.after`: any use of a manager, where taking a handle and opening it may be apart.
- `Manager.after_evolves`: the active settings and those of every handle stay such that they can be used.
- `handle_opened_under_active_policy`: what opening a handle does.
-/

namespace DirectoryLogin

open Managed

namespace Manager

variable {m m' : Manager} {id : HandleId}

/-! ## §1 Using a manager -/

/-- Something that is done with a manager: a whole move, or one half of acquiring a handle. -/
inductive Turn where
  | whole (move : Move)
  /-- The first half: a handle is taken. -/
  | take
  /-- The second half: its connection is opened. -/
  | openHandle (id : HandleId)

/-- What a turn runs. -/
def Turn.program : Turn → Managed Unit
  | whole move => (fun _ => ()) <$> move.program
  | take => (fun _ => ()) <$> takeHandle
  | openHandle id => Managed.openHandle id

/-- The manager after some turns, each of which may fail. -/
def after (m : Manager) (turns : List Turn) : Manager :=
  turns.foldl (fun m turn => (turn.program.perform m).2) m

/-- A move replaces settings only by such that can be used. -/
theorem move_evolves (move : Move) : move.program.Respects Evolves := by
  -- all but a change of the settings keep the settings of every handle
  cases move with
  | acquire => exact .map (evolves acquire_abides) _
  | release id => exact .map (evolves (abides fun _ => release_upholds id)) _
  | close id => exact .map (evolves (abides fun _ => close_upholds id)) _
  | abandon id =>
    exact .map (evolves (abides fun _ => .bind (close_upholds id) fun _ => drainPool_upholds)) _
  | drainPool => exact .map (evolves (abides fun _ => drainPool_upholds)) _
  | start => exact .map (evolves start_abides) _
  | shutdown => exact .map (evolves (abides fun _ => shutdown_upholds)) _
  | reconfigure snapshot => exact .map (reconfigure_evolves snapshot) _
  | use id x => exact .map (evolves (abides fun _ => onHandle_upholds id x)) _
  | write message => exact .map (evolves (abides fun _ => onWorld_upholds _)) _
  | outside directory faults => exact .map (evolves (abides fun _ => onWorld_upholds _)) _

theorem turn_evolves (turn : Turn) : turn.program.Respects Evolves := by
  cases turn with
  | whole move => exact .map (move_evolves move) _
  | take => exact .map (evolves takeHandle_abides) _
  | openHandle id => exact evolves (abides fun _ => openHandle_upholds id)

/-- **Whatever is done with a manager**, settings that can be used are only replaced by such. -/
theorem after_evolves (m : Manager) (turns : List Turn) : Evolves m (m.after turns) := by
  induction turns generalizing m with
  | nil => exact refl_of Evolves m
  | cons turn rest ih => exact trans_of Evolves (turn_evolves turn m) (ih _)

/-- A new manager can use its settings, and has no handle. -/
theorem usable_of_create {registry : Registry} {snapshot : Snapshot} {w : World}
    (hcreate : ((create registry snapshot).perform w).1 = .ok m) : m.registry = registry ∧ m.Usable := by
  rw [perform_create] at hcreate
  rcases hchosen : registry.collaborators snapshot.settings with e | chosen
  · rw [hchosen] at hcreate
    cases hcreate
  rcases hhandle : Handle.create snapshot false with e | handle
  · simp only [hchosen, hhandle] at hcreate
    cases hcreate
  · simp only [hchosen, hhandle] at hcreate
    cases hcreate
    exact ⟨rfl, .of_new hchosen (Handle.of_create_ok hhandle).2.2.1⟩

/-! ## §2 Opening a handle -/

/-- Opening the handle means to establish a connection for these settings, of this kind and with this encryption. -/
def OpensAs (m : Manager) (id : HandleId) (chosen : Registry.Collaborators) (s : Settings) : Prop :=
  (openHandle id).perform m =
    match (Connection.establish chosen.connector chosen.tls s).perform m.world with
    | (.ok c, w) => (.ok (), { m.setConnection id (some c) with world := w })
    | (.error e, w) => (.error e, { m with world := w })

/-- What is sent while the handle is opened, and what becomes of it. -/
def heardOpening (m : Manager) (id : HandleId) : List Heard :=
  m.world.heard ((openHandle id).perform m).2.world

end Manager

/-! ## §3 The theorem -/

/-- **Handles are opened under the active policy.** Take a handle at any time in the use of a new manager. There is what
the settings of the handle choose, and what the active settings choose, and either encrypts as its settings ask for.
Opening the handle establishes a connection for the settings of the handle, by the choice of the active settings; every
wire that is opened for it is encrypted as the active settings ask for. For a handle of the active settings this is the
choice of its own settings. -/
theorem handle_opened_under_active_policy {registry : Registry} {snapshot : Snapshot} {w : World} {m₀ m : Manager}
    (hcreate : ((Manager.create registry snapshot).perform w).1 = .ok m₀) {turns : List Manager.Turn}
    (hm : m₀.after turns = m) {id : HandleId} {h : Handle} (hid : m.handle? id = some h) :
    ∃ own active : Registry.Collaborators,
      registry.collaborators h.settings = .ok own ∧ own.tls.isSome = h.settings.useStartTls ∧
      registry.collaborators m.active.settings = .ok active ∧ active.tls.isSome = m.active.settings.useStartTls ∧
      m.OpensAs id active h.settings ∧
      (∀ x ∈ m.heardOpening id, x.event.request.OpensWith m.active.settings.useStartTls) ∧
      (h.settings = m.active.settings → m.OpensAs id own h.settings) := by
  obtain ⟨hregistry, husable⟩ := Manager.usable_of_create hcreate
  have hevolves := m₀.after_evolves turns
  rw [hm] at hevolves
  have husable := hevolves.usable husable
  have hregistry : m.registry = registry := hevolves.registry.trans hregistry
  -- both the active settings and those of the handle have been chosen for once
  obtain ⟨active, hactive, hconnector, htls⟩ := husable.chosen
  obtain ⟨own, hown⟩ := husable.handles id h hid
  rw [hregistry] at hactive hown
  -- what opens the handle is the connector and the policy of the active settings
  have hopens : m.OpensAs id active h.settings := by
    rw [Manager.OpensAs, hconnector, htls]
    exact perform_openHandle hid
  have hpolicy := Manager.tls_of_collaborators hactive
  refine ⟨own, active, hown, Manager.tls_of_collaborators hown, hactive, hpolicy, hopens, ?_, fun hsame => ?_⟩
  · -- so they say what is sent
    rw [← hpolicy, htls]
    exact (openHandle_conducts id m).guards.transcribed.2.1
  · -- the collaborators of equal settings are equal
    rw [hsame, hactive] at hown
    cases hown
    exact hopens

/-! ### A run -/

/-- The settings of the service, and whether its connections are to be encrypted. -/
def Settings.ofEncryptedService (encrypted : Bool) : Settings :=
  { Settings.ofService 0 with useStartTls := encrypted }

/-- Encryption is given up while nobody has opened the handle that was made for it. -/
def Manager.Turn.givingUp : List Manager.Turn :=
  [.whole (.reconfigure ⟨1, .ofEncryptedService true⟩), .whole (.reconfigure ⟨2, .ofEncryptedService false⟩)]

/-- The handle is there, and it is not one of the active settings. -/
theorem unopened_handle_under_other_policy :
    ∃ m₀ h, ((Manager.create {} ⟨0, .ofEncryptedService true⟩).perform .ofService).1 = .ok m₀ ∧
      (m₀.after Manager.Turn.givingUp).handle? 0 = some h ∧ h.settings.useStartTls = true ∧
      ∃ active : Registry.Collaborators, active.tls.isSome = false ∧
        (m₀.after Manager.Turn.givingUp).OpensAs 0 active h.settings := by
  have hrun : (((Manager.create {} ⟨0, .ofEncryptedService true⟩).perform .ofService).1.toOption.any fun m₀ =>
      !(m₀.after Manager.Turn.givingUp).active.settings.useStartTls &&
        ((m₀.after Manager.Turn.givingUp).handle? 0).any (·.settings.useStartTls)) = true := by decide +kernel
  obtain ⟨m₀, hcreate, hrun⟩ := exists_ok_of_any hrun
  simp only [Bool.and_eq_true, Bool.not_eq_true', Option.any_eq_true] at hrun
  obtain ⟨hactive, h, hid, hsettings⟩ := hrun
  obtain ⟨_, active, -, -, -, hpolicy, hopens, -⟩ := handle_opened_under_active_policy hcreate rfl hid
  exact ⟨m₀, h, hcreate, hid, hsettings, active, hpolicy.trans hactive, hopens⟩

/-- It was made for encrypted connections, and it is opened without encryption: the password of the service is sent
over a wire that is never upgraded. -/
theorem password_sent_for_encrypted_handle :
    ∃ m₀ h, ((Manager.create {} ⟨0, .ofEncryptedService true⟩).perform .ofService).1 = .ok m₀ ∧
      ((reconfigure ⟨1, .ofEncryptedService true⟩).perform m₀).1 = .ok 0 ∧
      (m₀.after Manager.Turn.givingUp).handle? 0 = some h ∧ h.settings = .ofEncryptedService true ∧
      ((openHandle 0).perform (m₀.after Manager.Turn.givingUp)).1 = .ok () ∧
      (∃ x ∈ (m₀.after Manager.Turn.givingUp).heardOpening 0,
        ∃ request, x.event.request = .bind request ∧ request.password.text? = some "spruce") ∧
      ∀ x ∈ (m₀.after Manager.Turn.givingUp).heardOpening 0, x.event.request ≠ .startTls := by
  -- the handle is taken, the settings change, and it is opened: the run is evaluated once
  have hrun : (((Manager.create {} ⟨0, .ofEncryptedService true⟩).perform .ofService).1.toOption.any fun m₀ =>
      let m := m₀.after Manager.Turn.givingUp
      ((reconfigure ⟨1, .ofEncryptedService true⟩).perform m₀).1.toOption.any (· == 0) &&
        ((m.handle? 0).any fun h => decide (h.settings = .ofEncryptedService true)) &&
        ((openHandle 0).perform m).1.toOption.any (· == ()) &&
        ((m.heardOpening 0).any fun x => x.event.request.bind?.any (·.password.text? == some "spruce")) &&
        (m.heardOpening 0).all fun x => x.event.request.call? != some .startTls) = true := by decide +kernel
  -- each part of the statement is read off it
  obtain ⟨m₀, hcreate, hrun⟩ := exists_ok_of_any hrun
  simp only [Bool.and_eq_true, List.any_eq_true, List.all_eq_true] at hrun
  obtain ⟨⟨⟨⟨hreturned, hhandle⟩, hopened⟩, x, hx, hbind⟩, hnone⟩ := hrun
  obtain ⟨number, hreturned, hnumber⟩ := exists_ok_of_any hreturned
  obtain rfl : number = 0 := eq_of_beq hnumber
  obtain ⟨h, hid, hsettings⟩ := (Option.any_eq_true _ _).mp hhandle
  obtain ⟨_, hopened, -⟩ := exists_ok_of_any hopened
  obtain ⟨request, hrequest, hpassword⟩ := (Option.any_eq_true _ _).mp hbind
  have hsent : ∃ request, x.event.request = .bind request ∧ request.password.text? = some "spruce" :=
    ⟨request, Request.eq_bind_of_bind? hrequest, eq_of_beq hpassword⟩
  refine ⟨m₀, h, hcreate, hreturned, hid, of_decide_eq_true hsettings, hopened, ⟨x, hx, hsent⟩, fun y hy hupgrade => ?_⟩
  exact bne_iff_ne.mp (hnone y hy) (congrArg Request.call? hupgrade)

end DirectoryLogin

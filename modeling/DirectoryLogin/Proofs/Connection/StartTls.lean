import DirectoryLogin.Proofs.Phases
/-!
# Opening Encrypted Connections

A connection that is to be encrypted is opened without an identity and upgraded before anything else is sent. If the
upgrade is not accepted, no connection comes of it, and its wire is ended at most. So whatever is tried to open a
connection, the monitor of phases follows it on every wire.

- `Connection.upgrade_run`: the upgrade, and what is done if it fails.
- `Connection.openWith_run`: opening a connection, encrypted or not.
- `Connection.establish_ventures`: opening a connection to either URL.
-/

namespace DirectoryLogin

/-! ## §1 The requests that open a wire -/

/-- If the request opens a wire, the wire is to be encrypted or not. -/
def Request.OpensWith (encrypted : Bool) : Request → Prop
  | .connect request => request.tls.isSome = encrypted
  | _ => True

/-- The request opens no wire. -/
def Request.OpensNothing (request : Request) : Prop :=
  ∀ opening, request ≠ .connect opening

theorem Request.OpensNothing.of_isService {request : Request} (h : request.isService = true) :
    request.OpensNothing := by
  rintro opening rfl
  cases h

theorem Request.OpensNothing.opensWith {request : Request} (h : request.OpensNothing) (encrypted : Bool) :
    request.OpensWith encrypted := by
  cases request with
  | connect opening => exact absurd rfl (h opening)
  | _ => trivial

theorem Request.OpensWith.of_isService {encrypted : Bool} {request : Request} (h : request.isService = true) :
    request.OpensWith encrypted :=
  (OpensNothing.of_isService h).opensWith encrypted

namespace World

variable {w w' w'' : World}

/-- Where nothing may be said, nothing is heard. -/
theorem Converses.hears_nil {n : Nat} (h : Converses (fun _ => False) n w w') : Hears [] w w' := by
  obtain ⟨-, es, hes, hall⟩ := h
  cases es with
  | nil => exact hes
  | cons x rest => exact (hall x List.mem_cons_self).2.elim

/-- Opening a wire is one request, whatever comes of it. -/
theorem openWire_hears (w : World) (n : Nat) (request : OpenRequest) :
    ∃ verdict, Hears [⟨⟨n, .connect request⟩, verdict⟩] w ((openWire n request).perform w).2 ∧
      ((openWire n request).perform w).2.wires.length = w.wires.length := by
  have hsend := send_hears w n (.connect request) rfl
  -- what is done after the request sends nothing more
  have hrest : Session.Respects (Converses (fun _ => False) n) (do
      if (← get).directory.refuses request.host request.port then
        throw (.client ⟨"LDAPSocketOpenError", "refused by " ++ request.host ++ ":" ++ toString request.port⟩)
      modify (·.updateWire n fun wire => { wire with isOpen := true }) : Session World Unit) := by
    refine .bind .get fun w => ?_
    split
    · exact .bind (.throw _) fun _ => .modify fun w => .updateWire w _
    · exact .modify fun w => .updateWire w _
  -- the verdict is that of the request, whether or not a connection comes about
  refine ⟨((send .connect n (.connect request)).perform w).1, ?_, (openWire_respects n request w).length⟩
  rw [openWire]
  rcases hrun : (send .connect n (.connect request)).perform w with ⟨e | passed, w₁⟩
  all_goals rw [hrun] at hsend
  · rw [Session.perform_bind_of_error hrun]
    exact hsend
  · rw [Session.perform_bind_of_ok hrun]
    exact hsend.trans (hrest w₁).hears_nil

end World

namespace Exchange

/-- Asking for encryption is one request, and it succeeds if the request goes through. -/
theorem startTls_hears (ch : Channel) :
    ∃ verdict, World.Hears [⟨⟨ch.connection.wire, .startTls⟩, verdict⟩] ch.world (startTls.perform ch).2.world ∧
      (startTls.perform ch).2.connection.wire = ch.connection.wire ∧
      (startTls.perform ch).2.world.wires.length = ch.world.wires.length ∧
      ∀ version, (startTls.perform ch).1 = .ok version → verdict = .ok true := by
  -- the one request on record is StartTLS, with the verdict that the faults give it
  have hsend := World.send_hears ch.world ch.connection.wire .startTls rfl
  rw [World.send_eq] at hsend
  refine ⟨Fault.verdict (Fault.strike .startTls ch.world.faults).1, ?_, (startTls_proceeds ch).wire,
    (startTls_proceeds ch).world.length, ?_⟩
  · obtain ⟨started, hstate⟩ := startTls_state ch
    rw [hstate]
    exact hsend
  · -- a version is returned only after it went through
    intro version hversion
    simp only [startTls, Session.perform_bind, perform_connection, perform_classified, perform_onWorld,
      World.startTlsWire, World.send_eq] at hversion
    rcases hverdict : Fault.verdict (Fault.strike .startTls ch.world.faults).1 with e | _ | _
    · rw [hverdict] at hversion
      cases hversion
    · rw [hverdict] at hversion
      cases hversion
    · rfl

end Exchange

/-! ## §2 A connection on a new wire -/

namespace World

variable {b : Bool} {w w' w'' : World} {p q : Phase} {es : List Heard}

/-- The world has moved on by requests on one new wire, which has come to a phase. -/
structure Launches (b : Bool) (w : World) (p : Phase) (w' : World) : Prop where
  length : w'.wires.length = w.wires.length + 1
  heard : ∃ es, Hears es w w' ∧ (∀ x ∈ es, x.event.wire = w.wires.length + 1 ∧ x.event.request.OpensWith b) ∧
    Phase.new.after es = some p

namespace Launches

theorem new (b : Bool) (w : World) : Launches b w .new w.withNewWire :=
  ⟨by simp [withNewWire], [], .nil rfl rfl, List.forall_mem_nil _, rfl⟩

/-- More is said on the wire. -/
theorem andThen (h : Launches b w p w') (hlength : w''.wires.length = w'.wires.length) (hes : Hears es w' w'')
    (hall : ∀ x ∈ es, x.event.wire = w.wires.length + 1 ∧ x.event.request.OpensWith b) (hafter : p.after es = some q) :
    Launches b w q w'' := by
  obtain ⟨before, hbefore, hopens, hphase⟩ := h.heard
  exact ⟨hlength.trans h.length, before ++ es, hbefore.trans hes, List.forall_mem_append.mpr ⟨hopens, hall⟩,
    (Phase.after_append_of_some hphase).trans hafter⟩

theorem service (h : Launches b w p w') (hp : p.isReady = true)
    (hserves : Converses (fun request => request.isService = true) (w.wires.length + 1) w' w'') :
    ∃ q, q.isReady = true ∧ Launches b w q w'' := by
  obtain ⟨hlength, es, hes, hall⟩ := hserves
  obtain ⟨q, hq, hready⟩ := Phase.after_of_isReady hp fun x hx => (hall x hx).2
  exact ⟨q, hready, h.andThen hlength hes (fun x hx => ⟨(hall x hx).1, .of_isService (hall x hx).2⟩) hq⟩

theorem ended (h : Launches b w p w') (hp : p = .plain ∨ p = .secured ∨ p = .failed)
    (hends : Converses (· = .unbind) (w.wires.length + 1) w' w'') : Launches b w p w'' := by
  obtain ⟨hlength, es, hes, hall⟩ := hends
  refine h.andThen hlength hes (fun x hx => ⟨(hall x hx).1, ?_⟩) (Phase.after_of_unbinds hp fun x hx => (hall x hx).2)
  rw [(hall x hx).2]
  trivial

end Launches

end World

namespace Connection

variable {b : Bool} {ready : Phase → Prop} {w : World}

/-- How opening a connection ends: nothing was sent, or the new wire has come to a phase; for a connection to come of
it, to one that it can be handed out in. -/
inductive OpenRun (b : Bool) (ready : Phase → Prop) (w : World) : Except Failure Connection × World → Prop
  | unsent (e : Failure) : OpenRun b ready w (.error e, w)
  | failed (e : Failure) (p : Phase) (w' : World) (h : w.Launches b p w') : OpenRun b ready w (.error e, w')
  | opened (c : Connection) (p : Phase) (w' : World) (h : w.Launches b p w') (hwire : c.wire = w.wires.length + 1)
      (hready : ready p) : OpenRun b ready w (.ok c, w')

/-- The wire is to be encrypted if there are settings for that. -/
theorem destination_tls {e : Environment} {tls : Option TlsSettings} {d : OpenRequest × String}
    (h : destination e tls = .ok d) : d.1.tls = tls := by
  unfold destination at h
  -- every part that cannot be read ends the attempt before the request is made up
  dsimp only at h
  split at h
  · cases h
  split at h
  · generalize ProviderUrl.parse _ = target, Timeout.ofValue (e.value Environment.connectTimeout) = connectTimeout,
      Timeout.ofValue (e.value Environment.readTimeout) = receiveTimeout at h
    rcases target with _ | target
    · cases h
    rcases connectTimeout with _ | connectTimeout
    · cases h
    rcases receiveTimeout with _ | receiveTimeout
    · cases h
    · cases h
      rfl
  · cases h

/-- Opening the wire of a connection is one request. -/
theorem dial_launches {c : Connection} (hwire : c.wire = w.wires.length + 1) {request : OpenRequest}
    (htls : request.tls.isSome = b) :
    w.Launches b (if b then .opened else .plain) ((dial c request).perform w.withNewWire).2 := by
  have hstate : ((dial c request).perform w.withNewWire).2 =
      ((World.openWire c.wire request).perform w.withNewWire).2 := by
    rw [dial, Session.perform_rescue]
    rcases (World.openWire c.wire request).perform w.withNewWire with ⟨e | _, w'⟩
    · cases e <;> rfl
    · rfl
  obtain ⟨verdict, hhears, hlength⟩ := World.openWire_hears w.withNewWire c.wire request
  rw [hstate]
  refine (World.Launches.new b w).andThen hlength hhears (List.forall_mem_singleton.mpr ⟨hwire, htls⟩) ?_
  rw [← htls]
  rfl

/-- Binding a new connection asks for service, and giving it up too. -/
theorem bindNew_converses (c : Connection) :
    (bindNew c).Respects (World.Converses (fun request => request.isService = true) c.wire) := by
  have hbind : (c.run Exchange.bind).Respects (World.Converses (fun request => request.isService = true) c.wire) :=
    fun w => (Exchange.bind_converses (fun _ => rfl) ⟨c, w⟩).world
  have hgivenUp : (abandon c.wire).Respects (World.Converses (fun request => request.isService = true) c.wire) :=
    .rescue_if (World.unbindWire_converses rfl) fun _ _ => .pure _
  exact .bind (.onFailure hbind fun _ => hgivenUp) fun _ => .pure _

/-- The usual way to open a connection, with what is done once it is known where it goes. -/
theorem openStandard_run (e : Environment) (bindNow : Bool) (tls : Option TlsSettings)
    (hrest : ∀ (c : Connection) (w' : World), c.wire = w.wires.length + 1 →
      w.Launches tls.isSome (if tls.isSome then .opened else .plain) w' →
      OpenRun tls.isSome ready w ((if bindNow then bindNew c else pure c : Session World Connection).perform w')) :
    OpenRun tls.isSome ready w ((openAs .standard e bindNow tls).perform w) := by
  rw [openAs, openStandard_eq]
  -- without a destination nothing is sent
  rcases hdestination : destination e tls with failure | d
  · exact .unsent failure
  · rw [Session.perform_bind_of_ok (Session.perform_ofExcept (.ok d) w),
      Session.perform_bind_of_ok (World.perform_newWire w)]
    -- otherwise the wire is a new one, and dialling it leaves it opened or plain
    let c : Connection := { wire := w.wires.length + 1, environment := e, namespaceName := d.2 }
    have hlaunches : w.Launches tls.isSome (if tls.isSome then .opened else .plain)
        ((dial c d.1).perform w.withNewWire).2 :=
      dial_launches rfl (by rw [destination_tls hdestination])
    rcases hdial : (dial c d.1).perform w.withNewWire with ⟨failure | _, w'⟩
    all_goals rw [hdial] at hlaunches
    · dsimp only
      rw [Session.perform_bind_of_error hdial]
      exact .failed failure _ w' hlaunches
    · dsimp only
      rw [Session.perform_bind_of_ok hdial]
      exact hrest _ w' rfl hlaunches

/-- What is bound right away keeps its wire. -/
theorem wire_of_bind_ok {c c' : Connection} {w w' : World} (h : Exchange.bind.perform ⟨c, w⟩ = (.ok (), ⟨c', w'⟩)) :
    c'.wire = c.wire :=
  (Exchange.bind_proceeds.of_perform h).wire

/-- **Opening without encryption**: the wire can be used from the start. -/
theorem openAs_plain (kind : ConnectionKind) (e : Environment) :
    OpenRun false (fun p => p.isReady = true) w ((openAs kind e true none).perform w) := by
  cases kind with
  | standard =>
    -- the connection is made first, then bound on the wire that was opened
    refine openStandard_run e true none fun c w' hwire hlaunches => ?_
    have hserves := bindNew_converses c w'
    rw [hwire] at hserves
    obtain ⟨q, hready, hbound⟩ := hlaunches.service rfl hserves
    simp only [if_true]
    rcases hrun : (bindNew c).perform w' with ⟨failure | c', w''⟩
    all_goals rw [hrun] at hbound
    · exact .failed failure q w'' hbound
    · exact .opened c' q w'' hbound ((wire_of_bind_ok (of_bindNew_ok hrun)).trans hwire) hready
  | prepared =>
    rw [openAs, openPrepared, Session.perform_bind_of_ok (World.perform_newWire w)]
    -- a prepared connection is not dialled: its wire is new, and what is sent over it is a bind
    let c : Connection := { kind := .prepared, wire := w.wires.length + 1, environment := e }
    have hserves : World.Converses (fun request => request.isService = true) (w.wires.length + 1) w.withNewWire
        ((c.run Exchange.bind).perform w.withNewWire).2 :=
      (Exchange.bind_converses (fun _ => rfl) ⟨c, w.withNewWire⟩).world
    obtain ⟨q, hready, hbound⟩ := (World.Launches.new false w).service rfl hserves
    simp only [if_true]
    rcases hrun : (c.run Exchange.bind).perform w.withNewWire with ⟨failure | ⟨_, c'⟩, w''⟩
    all_goals rw [hrun] at hbound
    · rw [Session.perform_bind_of_error hrun]
      exact .failed failure q w'' hbound
    · rw [Session.perform_bind_of_ok hrun]
      exact .opened c' q w'' hbound (wire_of_bind_ok (of_run_ok hrun)) hready

/-- Opening for an upgrade: nothing is sent after the wire has been opened. -/
theorem openAs_unbound (kind : ConnectionKind) (e : Environment) (tls : TlsSettings) :
    OpenRun true (fun p => p = .opened ∨ p = .new) w ((openAs kind e false (some tls)).perform w) := by
  cases kind with
  | standard =>
    exact openStandard_run e false (some tls) fun c w' hwire hlaunches => .opened c _ w' hlaunches hwire (.inl rfl)
  | prepared =>
    exact .opened { kind := .prepared, wire := w.wires.length + 1, environment := e } _ _ (World.Launches.new true w)
      rfl (.inr rfl)

/-- Giving up after a failed upgrade ends the wire at most. -/
theorem giveUp_converses : Session.Respects (Channel.Converses (· = .unbind))
    (Exchange.close.rescue fun e => if e.isOrdinary then some (return) else none) :=
  .rescue_if (Exchange.close_converses rfl) fun _ _ => .pure _

/-- **The upgrade** comes next. If it has not been accepted, the wire is ended at most. -/
theorem upgrade_run {c : Connection} {p : Phase} {w' : World} (h : w.Launches b p w')
    (hwire : c.wire = w.wires.length + 1) (hp : p = .opened ∨ p = .new) :
    ∃ q, w.Launches b q (upgrade.perform ⟨c, w'⟩).2.world ∧
      ∀ version, (upgrade.perform ⟨c, w'⟩).1 = .ok version →
        q.isReady = true ∧ (upgrade.perform ⟨c, w'⟩).2.connection.wire = c.wire := by
  obtain ⟨verdict, hhears, hwire', hlength, haccepted⟩ := Exchange.startTls_hears ⟨c, w'⟩
  obtain ⟨q, hafter, hq, hready⟩ := Phase.after_startTls hp c.wire verdict
  have hstarted := h.andThen hlength hhears (List.forall_mem_singleton.mpr ⟨hwire, trivial⟩) hafter
  rw [upgrade, Session.perform_onFailure]
  rcases hrun : Exchange.startTls.perform ⟨c, w'⟩ with ⟨failure | version, ch⟩
  all_goals rw [hrun] at hwire' haccepted hstarted
  · have hends := (giveUp_converses ch).world
    have hchannel : ch.connection.wire = w.wires.length + 1 := hwire'.trans hwire
    rw [hchannel] at hends
    dsimp only
    split
    · -- an upgrade that has failed is given up, unless it was interrupted
      have hended := hstarted.ended hq hends
      generalize (Exchange.close.rescue fun e => if e.isOrdinary then some (return) else none).perform ch = run
        at hended ⊢
      rcases run with ⟨_ | _, ch'⟩
      · exact ⟨q, hended, nofun⟩
      · exact ⟨q, hended, nofun⟩
    · exact ⟨q, hstarted, nofun⟩
  · exact ⟨q, hstarted, fun _ _ => ⟨hready (haccepted version rfl), hwire'⟩⟩

/-- **Opening a connection**, encrypted or not: a connection that comes of it can be used. -/
theorem openWith_run (kind : ConnectionKind) (policy : Option TlsArguments) (e : Environment) (w : World) :
    OpenRun policy.isSome (fun p => p.isReady = true) w ((openWith kind policy e).perform w) := by
  cases policy with
  | none => exact openAs_plain kind e
  | some policy =>
    rw [openWith, openEncrypted]
    rcases hbuild : policy.build with failure | tls
    · exact .unsent failure
    -- with a policy the wire is opened without a bind, then secured, and bound only after that
    rw [Session.perform_bind_of_ok (Session.perform_ofExcept (.ok tls) w)]
    have hunbound := openAs_unbound (w := w) kind (withoutSecurity e) tls
    rcases hopen : (openAs kind (withoutSecurity e) false (some tls)).perform w with ⟨failure | c, w₁⟩
    all_goals rw [hopen] at hunbound
    · rw [Session.perform_bind_of_error hopen]
      cases hunbound with
      | unsent => exact .unsent failure
      | failed _ p _ h => exact .failed failure p w₁ h
    · rw [Session.perform_bind_of_ok hopen]
      cases hunbound with
      | opened _ p _ h hwire hp =>
        -- the upgrade starts from an opened wire, and a version means that it is ready
        obtain ⟨q, hlaunches, hready⟩ := upgrade_run h hwire hp
        have hworld : (upgrade.perform ⟨c, w₁⟩).2.world = ((c.run upgrade).perform w₁).2 := rfl
        rcases hrun : (c.run upgrade).perform w₁ with ⟨failure | ⟨version, c'⟩, w₂⟩
        · rw [hworld, hrun] at hlaunches
          rw [Session.perform_bind_of_error hrun]
          exact .failed failure q w₂ hlaunches
        · have hupgraded := of_run_ok hrun
          rw [hupgraded] at hlaunches hready
          obtain ⟨hq, hwire'⟩ := hready version rfl
          rw [Session.perform_bind_of_ok hrun]
          exact .opened _ q w₂ hlaunches (hwire'.trans hwire) hq

end Connection

/-! ## §3 Several attempts -/

namespace World

open Heard (onWire onWire_append_of_fresh onWire_eq_self onWire_eq_nil)

variable {b : Bool} {es es' : List Heard} {w w' w'' : World}

/-- The world has moved on by requests on new wires, and the monitor has followed them on each wire. -/
structure Ventures (b : Bool) (es : List Heard) (w w' : World) : Prop where
  length : w.wires.length ≤ w'.wires.length
  hears : Hears es w w'
  fresh : ∀ x ∈ es, w.wires.length < x.event.wire ∧ x.event.wire ≤ w'.wires.length
  opens : ∀ x ∈ es, x.event.request.OpensWith b
  phases : ∀ n, ∃ p, Phase.new.after (onWire n es) = some p

namespace Ventures

theorem nil (hlength : w.wires.length ≤ w'.wires.length) (hes : Hears [] w w') : Ventures b [] w w' :=
  ⟨hlength, hes, List.forall_mem_nil _, List.forall_mem_nil _, fun _ => ⟨.new, rfl⟩⟩

/-- Later requests are on other wires. -/
theorem onWire_trans (h : Ventures b es w w') (h' : Ventures b es' w' w'') (n : Nat) :
    onWire n (es ++ es') = if n ≤ w'.wires.length then onWire n es else onWire n es' :=
  onWire_append_of_fresh (fun x hx => (h.fresh x hx).2) (fun x hx => (h'.fresh x hx).1) n

theorem trans (h : Ventures b es w w') (h' : Ventures b es' w' w'') : Ventures b (es ++ es') w w'' where
  length := Nat.le_trans h.length h'.length
  hears := h.hears.trans h'.hears
  -- the wires of the second part are opened after those of the first
  fresh x hx := by
    have hlength := h.length
    have hlength' := h'.length
    rcases List.mem_append.mp hx with hx | hx
    · obtain ⟨hlow, hhigh⟩ := h.fresh x hx
      omega
    · obtain ⟨hlow, hhigh⟩ := h'.fresh x hx
      omega
  opens := List.forall_mem_append.mpr ⟨h.opens, h'.opens⟩
  -- each wire belongs to one of the two parts
  phases n := by
    rw [h.onWire_trans h']
    split
    · exact h.phases n
    · exact h'.phases n

end Ventures

/-- The new wire is the only one on which anything was sent. -/
theorem Launches.ventures {p : Phase} (h : Launches b w p w') :
    ∃ es, Ventures b es w w' ∧ Phase.new.after (onWire (w.wires.length + 1) es) = some p := by
  obtain ⟨hlength, es, hes, hall, hphase⟩ := h
  have hself : onWire (w.wires.length + 1) es = es := onWire_eq_self fun x hx => (hall x hx).1
  refine ⟨es, ⟨by omega, hes, fun x hx => ?_, fun x hx => (hall x hx).2, fun n => ?_⟩, by rw [hself, hphase]⟩
  · have hwire := (hall x hx).1
    omega
  · by_cases hn : n = w.wires.length + 1
    · exact ⟨p, by rw [hn, hself, hphase]⟩
    · refine ⟨.new, ?_⟩
      rw [onWire_eq_nil fun x hx heq => hn (heq.symm.trans (hall x hx).1)]
      rfl

/-- Something has been ventured. -/
def Ventured (b : Bool) (w w' : World) : Prop :=
  ∃ es, Ventures b es w w'

instance (b : Bool) : IsPreorder World (Ventured b) where
  refl _ := ⟨[], .nil (Nat.le_refl _) (.nil rfl rfl)⟩
  trans _ _ _ := fun ⟨es, h⟩ ⟨es', h'⟩ => ⟨es ++ es', h.trans h'⟩

end World

namespace Connection

open Heard (onWire)

variable {kind : ConnectionKind} {policy : Option TlsArguments} {s : Settings} {w w' : World} {c : Connection}

theorem openWith_ventured (kind : ConnectionKind) (policy : Option TlsArguments) (e : Environment) :
    (openWith kind policy e).Respects (World.Ventured policy.isSome) := by
  intro w
  have hrun := openWith_run kind policy e w
  generalize (openWith kind policy e).perform w = run at hrun ⊢
  cases hrun with
  | unsent => exact refl_of _ w
  | failed _ _ _ h | opened _ _ _ h =>
    obtain ⟨es, hes, -⟩ := h.ventures
    exact ⟨es, hes⟩

theorem say_ventured (b : Bool) (level : Level) (source : Source) (text : String) :
    (World.say level source text).Respects (World.Ventured b) :=
  .modify fun _ => ⟨[], .nil (Nat.le_refl _) (.nil rfl rfl)⟩

theorem establish_ventured (kind : ConnectionKind) (policy : Option TlsArguments) (s : Settings) :
    (establish kind policy s).Respects (World.Ventured policy.isSome) :=
  establish_respects (openWith_ventured kind policy) (say_ventured policy.isSome) s

/-- **A connection that was opened**, to either URL, is on a new wire, which has come to a phase in which it can be
used. -/
theorem establish_ventures (h : (establish kind policy s).perform w = (.ok c, w')) :
    ∃ es p, World.Ventures policy.isSome es w w' ∧ w.wires.length < c.wire ∧ c.wire ≤ w'.wires.length ∧
      Phase.new.after (onWire c.wire es) = some p ∧ p.isReady = true := by
  obtain ⟨attempt, w₀, -, ⟨es, hes⟩, hopen⟩ := establish_ok (openWith_ventured kind policy) (say_ventured _) h
  have hrun := openWith_run kind policy (Environment.ofSettings s attempt) w₀
  rw [hopen] at hrun
  cases hrun with
  | opened _ p _ hlaunches hwire hready =>
    have hlength := hlaunches.length
    have hbefore := hes.length
    obtain ⟨es', hes', hphase⟩ := hlaunches.ventures
    refine ⟨es ++ es', p, hes.trans hes', by omega, by omega, ?_, hready⟩
    rw [hes.onWire_trans hes', if_neg (by omega), hwire, hphase]

end Connection

end DirectoryLogin

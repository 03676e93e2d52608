import DirectoryLogin.Proofs.Connection.StartTls
import DirectoryLogin.Proofs.Connection.Unbinding
import DirectoryLogin.Proofs.Lifetimes
import DirectoryLogin.Proofs.Programs
/-!
# Lives of Connections

What is done over a connection uses its wire, and closing it ends the wire. A connection that has been opened has a
wire that is alive; when opening fails, the wire that was taken is left as it is or ended, and not used again.

- `Channel.Uses`: what is done over a connection short of closing it.
- `Exchange.close_recounts`: closing.
- `Connection.openWith_birth`: opening.
- `Connection.establish_attempts`: opening to either URL.
-/

namespace DirectoryLogin

/-! ## §1 Using and closing -/

/-- What uses a wire neither opens nor ends it. -/
theorem Request.isUse_of_isService {request : Request} (hservice : request.isService = true)
    (hends : request.isUnbind = false) : request.isUse = true := by
  cases request with
  | connect => cases hservice
  | unbind => cases hends
  | _ => rfl

theorem Request.not_connect_of_isUse {request : Request} (h : request.isUse = true) (opening : OpenRequest) :
    request ≠ .connect opening := by
  rintro rfl
  cases h

namespace World

variable {n : Nat} {w w' : World}

/-- What is asked for over a wire and does not end it uses the wire. -/
theorem Converses.uses (h : Converses (fun request => request.isService = true) n w w') (g : Engages n w w') :
    Converses (fun request => request.isUse = true) n w w' := by
  obtain ⟨hlength, es, hes, hall⟩ := h
  obtain ⟨requests, hends, hevents⟩ := g.events
  -- both speak of the same record
  have hsame : es.map (·.event) = requests.map (Event.mk n) := List.append_cancel_left (hes.events.symm.trans hevents)
  refine ⟨hlength, es, hes, fun x hx => ⟨(hall x hx).1, Request.isUse_of_isService (hall x hx).2 ?_⟩⟩
  have hmem : x.event ∈ requests.map (Event.mk n) := hsame ▸ List.mem_map_of_mem hx
  obtain ⟨request, hrequest, heq⟩ := List.mem_map.mp hmem
  rw [← heq]
  exact hends request hrequest

/-- What uses a wire needs no settling. -/
theorem Converses.recounts (h : Converses (fun request => request.isUse = true) n w w')
    (hdirectory : w'.directory = w.directory) :
    ∃ es, Recounts es w w' ∧ ∀ x ∈ es, x.event.wire = n ∧ x.event.request.isUse = true := by
  obtain ⟨-, es, hes, hall⟩ := h
  exact ⟨es, .ofHears hdirectory hes fun x hx => Request.not_connect_of_isUse (hall x hx).2, hall⟩

/-- **Ending a connection** is one request, whatever comes of it. -/
theorem unbindWire_recounts (w : World) (n : Nat) :
    ∃ verdict, Recounts [⟨⟨n, .unbind⟩, verdict⟩] w ((unbindWire n).perform w).2 ∧
      ((unbindWire n).perform w).1 = verdict.map fun _ => () := by
  -- the wire is closed first, which is not on record
  let closed := w.updateWire n fun wire => { wire with isOpen := false }
  have hfaults : closed.faults = w.faults := updateWire_faults w n _
  have hclosed : Hears [] w closed := .nil (updateWire_events w n _) hfaults
  have hsent := send_hears closed n .unbind rfl
  rw [send_eq, hfaults] at hsent
  refine ⟨Fault.verdict (Fault.strike .unbind w.faults).1, .ofHears ?_ ?_ ?_, ?_⟩
  · rw [unbindWire_eq]
    exact updateWire_directory w n _
  · rw [unbindWire_eq]
    exact hclosed.trans hsent
  · exact List.forall_mem_singleton.mpr nofun
  · rw [unbindWire_eq]

end World

/-- What is done over a connection short of closing it. -/
structure Channel.Uses (ch ch' : Channel) : Prop where
  wire : ch'.connection.wire = ch.connection.wire
  directory : ch'.world.directory = ch.world.directory
  world : World.Converses (fun request => request.isUse = true) ch.connection.wire ch.world ch'.world

/-- A failure keeps its class when it leaves the connection. -/
theorem Failure.isOrdinary_interpreted (referrals : Bool) (e : Failure) :
    (e.interpreted referrals).isOrdinary = e.isOrdinary := by
  cases e <;> rfl

namespace Exchange

open Channel

variable {α : Type} {s : Settings} {P : α → Prop} {x : Exchange α}

theorem bind_uses : bind.Respects Uses := fun ch =>
  have hproceeds := bind_proceeds ch
  ⟨hproceeds.wire, hproceeds.world.directory, (bind_converses (fun _ => rfl) ch).world.uses (bind_engages ch).world⟩

/-- An edit of the environment sends nothing. -/
theorem edit_uses (f : Environment → Environment) : (edit f).Respects Uses :=
  fun ch => ⟨rfl, rfl, refl_of _ ch.world⟩

/-- **Orderly programs** use their connection. -/
theorem Orderly.uses (hx : Orderly s P x) : x.Respects Uses := fun ch =>
  ⟨(hx.serves ch).wire, (hx.serves ch).world.directory, (hx.converses ch).world.uses (hx.engages ch).world⟩

/-- **Closing** is one request to end the wire, and is interrupted only if that request is. -/
theorem close_recounts (ch : Channel) :
    ∃ verdict, World.Recounts [⟨⟨ch.connection.wire, .unbind⟩, verdict⟩] ch.world (close.perform ch).2.world ∧
      (FailsOrdinarily verdict → FailsOrdinarily (close.perform ch).1) := by
  obtain ⟨verdict, hrecounts, hresult⟩ := World.unbindWire_recounts ch.world ch.connection.wire
  rw [close_eq]
  refine ⟨verdict, hrecounts, fun hordinary => ?_⟩
  dsimp only
  rw [hresult]
  rcases verdict with e | passed
  · exact .error ((Failure.isOrdinary_interpreted _ e).trans (hordinary e rfl))
  · exact .ok ()

end Exchange

/-! ## §2 A connection on a new wire -/

namespace World

variable {w w' w'' : World} {l l' : Life} {es : List Heard}

/-- The world has moved on by requests on one new wire, and this has become of the wire. -/
structure Bears (w : World) (l : Life) (w' : World) : Prop where
  length : w'.wires.length = w.wires.length + 1
  recounts : ∃ es, Recounts es w w' ∧ (∀ x ∈ es, x.event.wire = w.wires.length + 1) ∧ Life.unborn.after es = some l

namespace Bears

/-- More happens on the wire. -/
theorem andThen (h : w.Bears l w') (hlength : w''.wires.length = w'.wires.length) (hes : Recounts es w' w'')
    (hall : ∀ x ∈ es, x.event.wire = w.wires.length + 1) (hafter : l.after es = some l') : w.Bears l' w'' := by
  obtain ⟨before, hbefore, hwires, hlife⟩ := h.recounts
  exact ⟨hlength.trans h.length, before ++ es, hbefore.trans hes, List.forall_mem_append.mpr ⟨hwires, hall⟩,
    (Life.after_append_of_some hlife).trans hafter⟩

/-- A wire that is used lives on. -/
theorem used (h : w.Bears .alive w')
    (huses : Converses (fun request => request.isUse = true) (w.wires.length + 1) w' w'')
    (hdirectory : w''.directory = w'.directory) : w.Bears .alive w'' := by
  obtain ⟨es, hes, hall⟩ := huses.recounts hdirectory
  exact h.andThen huses.length hes (fun x hx => (hall x hx).1) (Life.alive_after_of_isUse fun x hx => (hall x hx).2)

/-- A wire that is ended has lived. -/
theorem ended (h : w.Bears .alive w') : w.Bears .ended ((unbindWire (w.wires.length + 1)).perform w').2 := by
  obtain ⟨verdict, hrecounts, -⟩ := unbindWire_recounts w' (w.wires.length + 1)
  exact h.andThen (unbindWire_respects _ w').length hrecounts (List.forall_mem_singleton.mpr rfl) rfl

end Bears

/-- **Opening a wire**: the directory looks at a request that no fault has struck, even at one that was refused on the
way. -/
theorem openWire_eq (w : World) (n : Nat) (request : OpenRequest) :
    (openWire n request).perform w =
      match Fault.verdict (Fault.strike .connect w.faults).1 with
      | .ok _ =>
        if w.directory.refuses request.host request.port then
          (.error (.client ⟨"LDAPSocketOpenError", "refused by " ++ request.host ++ ":" ++ toString request.port⟩),
            w.sent .connect n (.connect request))
        else
          (.ok (), (w.sent .connect n (.connect request)).updateWire n fun wire => { wire with isOpen := true })
      | .error e => (.error e, w.sent .connect n (.connect request)) := by
  rw [openWire, Session.perform_bind, send_eq]
  rcases Fault.verdict (Fault.strike .connect w.faults).1 with e | passed
  · rfl
  dsimp only
  rw [Session.perform_bind_of_ok (Session.perform_get _), sent_directory]
  by_cases hrefuses : w.directory.refuses request.host request.port = true
  · rw [if_pos hrefuses, if_pos hrefuses]
    rfl
  · rw [if_neg hrefuses, if_neg hrefuses]
    rfl

/-- The request to open a wire is all that is sent. The wire is alive if there is no failure. -/
theorem openWire_recounts (w : World) (n : Nat) (request : OpenRequest) :
    ∃ x : Heard, Recounts [x] w ((openWire n request).perform w).2 ∧ x.event.wire = n ∧
      Life.unborn.next x =
        some (match ((openWire n request).perform w).1 with | .ok _ => .alive | .error _ => .failed) := by
  -- the outcome of the request is the verdict, but for a directory that refuses the address
  have hsent := send_hears w n (.connect request) rfl
  rw [send_eq] at hsent
  rw [openWire_eq]
  generalize Fault.verdict (Fault.strike .connect w.faults).1 = verdict at hsent ⊢
  refine ⟨Heard.settledBy w.directory ⟨⟨n, .connect request⟩, verdict⟩,
    ⟨?_, [⟨⟨n, .connect request⟩, verdict⟩], ?_, rfl⟩, ?_, ?_⟩
  · -- the directory stays what it was
    rcases verdict with e | passed
    · rfl
    · dsimp only
      split
      · rfl
      · exact updateWire_directory _ n _
  · -- the request is all that is on record
    rcases verdict with e | passed
    · exact hsent
    · dsimp only
      split
      · exact hsent
      · exact hsent.trans (.nil (updateWire_events _ n _) (updateWire_faults _ n _))
  · rw [Heard.settledBy_event]
  · -- and the life of the wire goes on as the opening came out
    rcases verdict with e | passed
    · rfl
    · dsimp only [Heard.settledBy]
      split
      · rfl
      · rfl

end World

namespace Connection

variable {w w' : World} {c : Connection}

/-- How opening a connection ends: nothing was sent, or a new wire was taken; for a connection to come of it, the wire
is alive. -/
inductive BirthRun (w : World) : Except Failure Connection × World → Prop
  | unsent (e : Failure) : BirthRun w (.error e, w)
  | lost (e : Failure) (l : Life) (w' : World) (h : w.Bears l w') : BirthRun w (.error e, w')
  | born (c : Connection) (w' : World) (h : w.Bears .alive w') (hwire : c.wire = w.wires.length + 1) :
      BirthRun w (.ok c, w')

/-- Opening the wire of a connection brings it to life, or fails. -/
theorem dial_bears (hwire : c.wire = w.wires.length + 1) (request : OpenRequest) :
    w.Bears (match ((dial c request).perform w.withNewWire).1 with | .ok _ => .alive | .error _ => .failed)
      ((dial c request).perform w.withNewWire).2 := by
  obtain ⟨x, hrecounts, hx, hlife⟩ := World.openWire_recounts w.withNewWire c.wire request
  have hlength := (World.openWire_respects c.wire request w.withNewWire).length
  have hnew : World.Recounts [] w w.withNewWire := .nil rfl (.nil rfl rfl)
  rw [dial, Session.perform_rescue]
  rcases hrun : (World.openWire c.wire request).perform w.withNewWire with ⟨e | _, w'⟩
  all_goals
    rw [hrun] at hrecounts hlength hlife
    have hbears {l : Life} (hl : Life.unborn.next x = some l) : w.Bears l w' :=
      ⟨hlength.trans w.length_withNewWire, [x], hnew.trans hrecounts, List.forall_mem_singleton.mpr (hx.trans hwire),
        (Life.after_singleton _ x).trans hl⟩
  · -- errors of the protocol fail under another name
    cases e <;> exact hbears hlife
  · exact hbears hlife

/-- Ending a connection without a report sends what ending it sends. -/
theorem world_abandon (n : Nat) (w : World) : ((abandon n).perform w).2 = ((World.unbindWire n).perform w).2 := by
  rw [abandon, Session.perform_rescue]
  rcases (World.unbindWire n).perform w with ⟨e | _, w'⟩
  · cases e <;> rfl
  · rfl

/-- **Binding a new connection**: if that fails, its wire is left alone or ended, and no connection comes of it. -/
theorem bindNew_birth (h : w.Bears .alive w') (hwire : c.wire = w.wires.length + 1) :
    BirthRun w ((bindNew c).perform w') := by
  have huses := Exchange.bind_uses ⟨c, w'⟩
  have hbound := h.used (hwire ▸ huses.world) huses.directory
  -- a bind over the new wire leaves it alive, whatever comes of it
  rw [bindNew, Session.perform_bind, Session.perform_onFailure, perform_run]
  rcases hrun : Exchange.bind.perform ⟨c, w'⟩ with ⟨e | _, c', w''⟩
  all_goals
    rw [hrun] at huses hbound
    dsimp only [Except.map]
  · rcases e.isClassified
    · exact .lost _ _ _ hbound
    · -- after a failure that is not classified the wire is abandoned, so that its life ends
      have hended := hbound.ended
      rw [← hwire, ← world_abandon] at hended
      dsimp only [if_true] at hended ⊢
      rcases hrun' : (abandon c.wire).perform w'' with ⟨e' | _, w₁⟩
      all_goals rw [hrun'] at hended
      · exact .lost _ _ _ hended
      · exact .lost _ _ _ hended
  · exact .born _ _ hbound (huses.wire.trans hwire)

/-- **Opening a connection** to the directory. -/
theorem openStandard_birth (e : Environment) (bindNow : Bool) (tls : Option TlsSettings) (w : World) :
    BirthRun w ((openStandard e bindNow tls).perform w) := by
  rw [openStandard_eq]
  -- without a destination there is no wire
  rcases destination e tls with failure | d
  · exact .unsent failure
  rw [Session.perform_bind_of_ok (Session.perform_ofExcept (.ok d) w),
    Session.perform_bind_of_ok (World.perform_newWire w)]
  dsimp only
  have hbears := dial_bears (c := { wire := w.wires.length + 1, environment := e, namespaceName := d.2 }) rfl d.1
  rw [Session.perform_bind]
  rcases hdial : (dial { wire := w.wires.length + 1, environment := e, namespaceName := d.2 } d.1).perform
    w.withNewWire with ⟨failure | _, w'⟩
  all_goals rw [hdial] at hbears
  · -- a dial that failed leaves nothing to bind
    exact .lost _ _ _ hbears
  · dsimp only
    split
    · exact bindNew_birth hbears rfl
    · exact .born _ _ hbears rfl

/-- Giving up after a failed upgrade leaves what closing leaves. -/
theorem state_giveUp (ch : Channel) :
    ((Exchange.close.rescue fun e => if e.isOrdinary then some (return) else none).perform ch).2 =
      (Exchange.close.perform ch).2 := by
  rw [Session.perform_rescue]
  rcases Exchange.close.perform ch with ⟨e | _, ch'⟩
  · rcases hordinary : e.isOrdinary
    · simp only [hordinary]
      rfl
    · simp only [hordinary]
      rfl
  · rfl

/-- **The upgrade** of a connection: if it fails, the wire is left alone or ended. -/
theorem upgrade_bears (h : w.Bears .alive w') (hwire : c.wire = w.wires.length + 1) :
    ∃ l, w.Bears l (upgrade.perform ⟨c, w'⟩).2.world ∧
      ∀ version, (upgrade.perform ⟨c, w'⟩).1 = .ok version →
        l = .alive ∧ (upgrade.perform ⟨c, w'⟩).2.connection.wire = c.wire := by
  -- StartTLS is the one request of the upgrade, and no opening
  obtain ⟨verdict, hhears, hwire', hlength, -⟩ := Exchange.startTls_hears ⟨c, w'⟩
  have hdirectory := (Exchange.startTls_proceeds ⟨c, w'⟩).world.directory
  have hrecounts : World.Recounts _ w' _ :=
    .ofHears hdirectory hhears (List.forall_mem_singleton.mpr (Request.not_connect_of_isUse rfl))
  have hstarted := h.andThen hlength hrecounts (List.forall_mem_singleton.mpr hwire) rfl
  rw [upgrade, Session.perform_onFailure]
  rcases hrun : Exchange.startTls.perform ⟨c, w'⟩ with ⟨failure | version, ch⟩
  all_goals
    rw [hrun] at hwire' hstarted
    dsimp only at hwire' hstarted ⊢
  · by_cases hordinary : failure.isOrdinary = true
    · rw [if_pos hordinary]
      -- after an ordinary failure the connection is closed, whether or not closing succeeds
      have hgivenUp : w.Bears .ended (Exchange.close.perform ch).2.world := by
        rw [Exchange.close_eq, hwire', hwire]
        exact hstarted.ended
      rw [← state_giveUp] at hgivenUp
      generalize (Exchange.close.rescue fun e => if e.isOrdinary then some (return) else none).perform ch = run
        at hgivenUp ⊢
      rcases run with ⟨_ | _, ch'⟩
      · exact ⟨_, hgivenUp, by rintro _ ⟨⟩⟩
      · exact ⟨_, hgivenUp, by rintro _ ⟨⟩⟩
    · -- any other failure leaves the wire as it is
      rw [if_neg hordinary]
      exact ⟨_, hstarted, by rintro _ ⟨⟩⟩
  · exact ⟨_, hstarted, fun _ _ => ⟨rfl, hwire'⟩⟩

/-- **Opening a connection** to the directory, encrypted or not. -/
theorem openWith_birth (policy : Option TlsArguments) (e : Environment) (w : World) :
    BirthRun w ((openWith .standard policy e).perform w) := by
  cases policy with
  | none => exact openStandard_birth e true none w
  | some policy =>
    rw [openWith, openEncrypted]
    rcases policy.build with failure | tls
    · exact .unsent failure
    rw [Session.perform_bind_of_ok (Session.perform_ofExcept (.ok tls) w)]
    -- with a policy the wire is opened without a bind, and upgraded
    have hopened := openStandard_birth (withoutSecurity e) false (some tls) w
    rw [openAs, Session.perform_bind]
    rcases hopen : (openStandard (withoutSecurity e) false (some tls)).perform w with ⟨failure | c, w₁⟩
    all_goals
      rw [hopen] at hopened
      dsimp only
    · cases hopened with
      | unsent => exact .unsent failure
      | lost _ l _ h => exact .lost failure l w₁ h
    · -- an upgrade that succeeded keeps the wire alive
      cases hopened with
      | born _ _ h hwire =>
        obtain ⟨l, hbears, halive⟩ := upgrade_bears h hwire
        rw [Session.perform_bind, perform_run]
        rcases hrun : upgrade.perform ⟨c, w₁⟩ with ⟨failure | version, c', w₂⟩
        all_goals rw [hrun] at hbears halive
        · exact .lost failure l w₂ hbears
        · obtain ⟨rfl, hwire'⟩ := halive version rfl
          exact .born _ w₂ hbears (hwire'.trans hwire)

end Connection

/-! ## §3 Several attempts -/

namespace World

open Heard (onWire onWire_append_of_fresh onWire_eq_self onWire_eq_nil)

variable {es es' : List Heard} {w w' w'' : World}

/-- The world has moved on by requests on new wires, and the monitor has followed them on each wire. -/
structure Attempts (es : List Heard) (w w' : World) : Prop where
  length : w.wires.length ≤ w'.wires.length
  recounts : Recounts es w w'
  fresh : ∀ x ∈ es, w.wires.length < x.event.wire ∧ x.event.wire ≤ w'.wires.length
  lives : ∀ n, ∃ l, Life.unborn.after (onWire n es) = some l

namespace Attempts

theorem nil (hlength : w.wires.length ≤ w'.wires.length) (hes : Recounts [] w w') : Attempts [] w w' :=
  ⟨hlength, hes, List.forall_mem_nil _, fun _ => ⟨.unborn, rfl⟩⟩

theorem onWire_trans (h : Attempts es w w') (h' : Attempts es' w' w'') (n : Nat) :
    onWire n (es ++ es') = if n ≤ w'.wires.length then onWire n es else onWire n es' :=
  onWire_append_of_fresh (fun x hx => (h.fresh x hx).2) (fun x hx => (h'.fresh x hx).1) n

theorem trans (h : Attempts es w w') (h' : Attempts es' w' w'') : Attempts (es ++ es') w w'' where
  length := Nat.le_trans h.length h'.length
  recounts := h.recounts.trans h'.recounts
  -- the wires of the second part are opened after those of the first
  fresh x hx := by
    have hlength := h.length
    have hlength' := h'.length
    rcases List.mem_append.mp hx with hx | hx
    · obtain ⟨hlow, hhigh⟩ := h.fresh x hx
      omega
    · obtain ⟨hlow, hhigh⟩ := h'.fresh x hx
      omega
  -- no wire is used by both parts
  lives n := by
    rw [h.onWire_trans h']
    split
    · exact h.lives n
    · exact h'.lives n

end Attempts

/-- The new wire is the only one on which anything was sent. -/
theorem Bears.attempts {l : Life} (h : w.Bears l w') :
    ∃ es, Attempts es w w' ∧ Life.unborn.after (onWire (w.wires.length + 1) es) = some l := by
  obtain ⟨hlength, es, hes, hall, hlife⟩ := h
  have hself : onWire (w.wires.length + 1) es = es := onWire_eq_self hall
  refine ⟨es, ⟨by omega, hes, fun x hx => ?_, fun n => ?_⟩, by rw [hself, hlife]⟩
  · have hwire := hall x hx
    omega
  · by_cases hn : n = w.wires.length + 1
    · exact ⟨l, by rw [hn, hself, hlife]⟩
    · refine ⟨.unborn, ?_⟩
      rw [onWire_eq_nil fun x hx heq => hn (heq.symm.trans (hall x hx))]
      rfl

/-- Something has been attempted. -/
def Attempted (w w' : World) : Prop :=
  ∃ es, Attempts es w w'

instance : IsPreorder World Attempted where
  refl _ := ⟨[], .nil (Nat.le_refl _) (.nil rfl (.nil rfl rfl))⟩
  trans _ _ _ := fun ⟨es, h⟩ ⟨es', h'⟩ => ⟨es ++ es', h.trans h'⟩

theorem say_attempted (level : Level) (source : Source) (text : String) :
    (say level source text).Respects Attempted :=
  .modify fun _ => ⟨[], .nil (Nat.le_refl _) (.nil rfl (.nil rfl rfl))⟩

end World

namespace Connection

open Heard (onWire)

variable {policy : Option TlsArguments} {s : Settings} {w w' : World} {c : Connection}

theorem openWith_attempted (policy : Option TlsArguments) (e : Environment) :
    (openWith .standard policy e).Respects World.Attempted := by
  intro w
  have hrun := openWith_birth policy e w
  generalize (openWith .standard policy e).perform w = run at hrun ⊢
  cases hrun with
  | unsent => exact refl_of _ w
  | lost _ _ _ h | born _ _ h =>
    obtain ⟨es, hes, -⟩ := h.attempts
    exact ⟨es, hes⟩

/-- **Opening to either URL** sends something on new wires only. -/
theorem establish_attempted (policy : Option TlsArguments) (s : Settings) :
    (establish .standard policy s).Respects World.Attempted :=
  establish_respects (openWith_attempted policy) World.say_attempted s

/-- **A connection that was opened**, to either URL, is on a new wire, which is alive. -/
theorem establish_attempts (h : (establish .standard policy s).perform w = (.ok c, w')) :
    ∃ es, World.Attempts es w w' ∧ w.wires.length < c.wire ∧ c.wire ≤ w'.wires.length ∧
      Life.unborn.after (onWire c.wire es) = some .alive := by
  obtain ⟨attempt, w₀, -, ⟨es, hes⟩, hopen⟩ := establish_ok (openWith_attempted policy) World.say_attempted h
  have hrun := openWith_birth policy (Environment.ofSettings s attempt) w₀
  rw [hopen] at hrun
  cases hrun with
  | born _ _ hbears hwire =>
    have hlength := hbears.length
    have hbefore := hes.length
    obtain ⟨es', hes', hlife⟩ := hbears.attempts
    refine ⟨es ++ es', hes.trans hes', by omega, by omega, ?_⟩
    rw [hes.onWire_trans hes', if_neg (by omega), hwire, hlife]

end Connection

end DirectoryLogin

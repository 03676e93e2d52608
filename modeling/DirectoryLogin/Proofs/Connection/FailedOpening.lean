import DirectoryLogin.Proofs.Connection.Lifetimes
/-!
# What a Failed Opening Leaves

Opening a connection may fail after its wire has been opened: the bind or the upgrade that follows fails. Then nobody
gets the connection, and nobody but the opening itself can end the wire. It does so after some failures and not after
others. A plain connection is given up only if binding it has failed in a way that the realm has classified; an
encrypted one after every failure that can be caught.

- `World.Carries`: the life of a new wire, and whether the wire is open in fact.
- `Connection.FailsOver`: the ways in which opening fails, by what becomes of the wire.
- `failed_opening_leaves`: after a failure the wire is ended if the failure is of the kind that is cleaned up after, and
  otherwise it stays open.
-/

namespace DirectoryLogin

/-! ## §1 Open wires -/

namespace World

/-- The wire of a number is open. -/
def isOpenAt (w : World) (n : Nat) : Bool :=
  (w.wire? n).any (·.isOpen)

variable {w w' w'' : World} {n k : Nat}

/-- A change of a wire that neither opens nor closes it does not show. -/
theorem isOpenAt_updateWire {f : Wire → Wire} (hf : ∀ wire, (f wire).isOpen = wire.isOpen) (w : World) (n k : Nat) :
    (w.updateWire n f).isOpenAt k = w.isOpenAt k := by
  unfold isOpenAt
  by_cases hk : k = n
  · rw [hk, wire?_updateWire_self, Option.any_map]
    congr 1
    funext wire
    exact hf wire
  · rw [wire?_updateWire_of_ne w hk]

/-- A wire that is closed is not open. -/
theorem isOpenAt_closed (w : World) (n : Nat) :
    (w.updateWire n fun wire => { wire with isOpen := false }).isOpenAt n = false := by
  unfold isOpenAt
  rw [wire?_updateWire_self, Option.any_map]
  rcases w.wire? n <;> rfl

/-- **One more wire**: apart from it the open wires are what they were. -/
theorem openWires_of_extends (h : Extends w w') (hlength : w'.wires.length = w.wires.length + 1) :
    w'.openWires =
      if w'.isOpenAt (w.wires.length + 1) then w.openWires ++ [w.wires.length + 1] else w.openWires := by
  -- the wires that there were are open or not as before, and one is new
  have hold : (List.range (w.wires.length + 1)).filter w'.isOpenAt = w.openWires := by
    apply List.filter_congr
    intro k hk
    have hk : k ≤ w.wires.length := Nat.lt_succ_iff.mp (List.mem_range.mp hk)
    rw [isOpenAt, h.wires k hk]
  have hrange : w'.openWires = (List.range (w.wires.length + 1 + 1)).filter w'.isOpenAt := by
    rw [openWires, hlength]
    rfl
  rw [hrange, List.range_succ, List.filter_append, hold, List.filter_singleton]
  cases w'.isOpenAt (w.wires.length + 1) with
  | true => rfl
  | false => exact List.append_nil _

end World

namespace Exchange

open Channel

/-- Binding neither opens nor closes a wire. -/
theorem bind_isOpenAt (ch : Channel) (k : Nat) :
    (bind.perform ch).2.world.isOpenAt k = ch.world.isOpenAt k := by
  rcases hresult : bind.perform ch with ⟨result, ch'⟩
  have hrun := bind_run ch
  rw [hresult] at hrun
  cases hrun with
  | skipped => rfl
  | unsupported => rfl
  | accepted _ r w _ hanswer =>
    -- a wire gets another user, and is not closed by that
    obtain ⟨user, -, rfl⟩ := World.of_bindWire_accepted hanswer
    apply World.isOpenAt_updateWire
    intro wire
    rfl
  | refused _ r _ w _ _ hanswer hfalse =>
    obtain rfl := World.of_bindWire_refused hanswer hfalse
    rfl

/-- Asking for encryption neither opens nor closes a wire. -/
theorem startTls_isOpenAt (ch : Channel) (k : Nat) :
    (startTls.perform ch).2.world.isOpenAt k = ch.world.isOpenAt k := by
  obtain ⟨started, hstate⟩ := startTls_state ch
  rw [hstate]
  rfl

end Exchange

/-! ## §2 The life of a new wire -/

namespace World

variable {w w' w'' : World} {l : Life}

/-- The world has moved on by requests on one new wire; this has become of the wire, and it is open as long as it is
alive. -/
structure Carries (w : World) (l : Life) (w' : World) : Prop where
  bears : w.Bears l w'
  isOpen : w'.isOpenAt (w.wires.length + 1) = (l == .alive)

namespace Carries

theorem openWires (h : w.Carries l w') (hextends : Extends w w') :
    w'.openWires = if l = .alive then w.openWires ++ [w.wires.length + 1] else w.openWires := by
  rw [openWires_of_extends hextends h.bears.length, h.isOpen]
  simp only [beq_iff_eq]

/-- A wire that is used stays open. -/
theorem used (h : w.Carries .alive w')
    (huses : Converses (fun request => request.isUse = true) (w.wires.length + 1) w' w'')
    (hdirectory : w''.directory = w'.directory)
    (hopen : w''.isOpenAt (w.wires.length + 1) = w'.isOpenAt (w.wires.length + 1)) : w.Carries .alive w'' where
  bears := h.bears.used huses hdirectory
  isOpen := hopen.trans h.isOpen

/-- A wire that is ended is closed, whatever becomes of the request. -/
theorem ended (h : w.Carries .alive w') : w.Carries .ended ((unbindWire (w.wires.length + 1)).perform w').2 where
  bears := h.bears.ended
  isOpen := by
    rw [unbindWire_eq]
    exact isOpenAt_closed w' _

end Carries

end World

/-! ## §3 The ways of failing -/

namespace Connection

open World (Carries)

variable {p : Failure → Bool} {w w' w'' : World} {c : Connection} {failure : Failure}

/-- How opening a connection fails, if it cleans up after the failures that `p` selects. -/
inductive FailsOver (p : Failure → Bool) (w : World) : Failure → World → Prop
  /-- Nothing was sent. -/
  | unsent (failure : Failure) : FailsOver p w failure w
  /-- The wire could not be opened. -/
  | unopened (failure : Failure) (w' : World) (h : w.Carries .failed w') : FailsOver p w failure w'
  /-- The wire was opened, and nobody has ended it. -/
  | left (failure : Failure) (w' : World) (h : w.Carries .alive w') (hp : p failure = false) :
      FailsOver p w failure w'
  /-- The wire was opened and then ended. Unless that fails in its turn, the failure is one that `p` selects. -/
  | ended (failure : Failure) (w₁ : World) (h : w.Carries .alive w₁)
      (hp : ((World.unbindWire (w.wires.length + 1)).perform w₁).1 = .ok () → p failure = true) :
      FailsOver p w failure ((World.unbindWire (w.wires.length + 1)).perform w₁).2

/-- Opening the wire of a connection: the wire is open unless that fails. -/
theorem dial_carries (hwire : c.wire = w.wires.length + 1) (request : OpenRequest) :
    w.Carries (match ((dial c request).perform w.withNewWire).1 with | .ok _ => .alive | .error _ => .failed)
      ((dial c request).perform w.withNewWire).2 := by
  refine ⟨dial_bears hwire request, ?_⟩
  -- the new wire has never been open
  have hnew : w.withNewWire.wire? (w.wires.length + 1) = some ⟨false, .null⟩ := by
    simp [World.wire?, World.withNewWire]
  have hclosed : w.withNewWire.isOpenAt (w.wires.length + 1) = false := by
    rw [World.isOpenAt, hnew]
    rfl
  rw [dial, Session.perform_rescue, World.openWire_eq, hwire]
  rcases Fault.verdict (Fault.strike .connect w.withNewWire.faults).1 with e | passed
  · cases e <;> exact hclosed
  · by_cases hrefuses : w.withNewWire.directory.refuses request.host request.port = true
    · simp only [hrefuses, if_true]
      exact hclosed
    · -- only a wire that was let in is opened
      simp only [hrefuses]
      show World.isOpenAt (World.updateWire _ _ _) _ = true
      have hsent : (w.withNewWire.sent .connect (w.wires.length + 1) (.connect request)).wire? (w.wires.length + 1) =
          some ⟨false, .null⟩ := hnew
      rw [World.isOpenAt, World.wire?_updateWire_self, hsent]
      rfl

/-- Ending a connection without a report goes through if the request does. -/
theorem abandon_ok {n : Nat} (h : ((World.unbindWire n).perform w).1 = .ok ()) :
    ((abandon n).perform w).1 = .ok () := by
  rw [abandon, Session.perform_rescue]
  rcases hrun : (World.unbindWire n).perform w with ⟨e | _, w'⟩
  · rw [hrun] at h
    cases h
  · rfl

/-- **Binding a new connection**: if that fails, the wire is ended after classified failures only. -/
theorem bindNew_fails (h : w.Carries .alive w') (hwire : c.wire = w.wires.length + 1)
    (hrun : (bindNew c).perform w' = (.error failure, w'')) :
    FailsOver Failure.isClassified w failure w'' := by
  have huses := Exchange.bind_uses ⟨c, w'⟩
  have hbound := h.used (hwire ▸ huses.world) huses.directory (Exchange.bind_isOpenAt ⟨c, w'⟩ _)
  rw [bindNew] at hrun
  rcases Session.of_perform_bind_error hrun with ⟨_, w₁, -, hreturn⟩ | hfailed
  · cases hreturn
  obtain ⟨e, w₁, hbind, hafter⟩ := Session.of_perform_onFailure_error hfailed
  obtain rfl : (Exchange.bind.perform ⟨c, w'⟩).2.world = w₁ := congrArg Prod.snd hbind
  rcases hafter with ⟨hpassed, rfl, rfl⟩ | ⟨hclassified, rfl, hfailure⟩
  · exact .left _ _ hbound hpassed
  · -- the failure is the one of the bind, unless the wire could not be abandoned
    rw [world_abandon, hwire]
    apply FailsOver.ended _ _ hbound
    intro hunbind
    rw [hwire] at hfailure
    rw [hfailure (abandon_ok hunbind)]
    exact hclassified

/-- A connection that is not bound at once fails before its wire is open. -/
theorem openStandard_fails {e : Environment} {bindNow : Bool} {tls : Option TlsSettings}
    (hp : bindNow = true → p = Failure.isClassified)
    (hrun : (openStandard e bindNow tls).perform w = (.error failure, w')) : FailsOver p w failure w' := by
  rw [openStandard_eq] at hrun
  -- what cannot be read keeps the wire from being made
  rcases hdestination : destination e tls with fault | d
  · rw [hdestination, Session.perform_bind_of_error (Session.perform_ofExcept (.error fault) w)] at hrun
    cases hrun
    exact .unsent failure
  rw [hdestination, Session.perform_bind_of_ok (Session.perform_ofExcept (.ok d) w),
    Session.perform_bind_of_ok (World.perform_newWire w)] at hrun
  dsimp only at hrun
  have hdialled := dial_carries (c := { wire := w.wires.length + 1, environment := e, namespaceName := d.2 }) rfl d.1
  rcases Session.of_perform_bind_error hrun with ⟨_, w₁, hdial, hrest⟩ | hdial
  · -- the dial succeeded, so it was the bind that failed
    rw [hdial] at hdialled
    cases bindNow with
    | true =>
      rw [hp rfl]
      exact bindNew_fails hdialled rfl hrest
    | false => cases hrest
  · rw [hdial] at hdialled
    exact .unopened failure w' hdialled

/-- A connection that is not bound has an open wire. -/
theorem openStandard_carries {e : Environment} {tls : Option TlsSettings}
    (hrun : (openStandard e false tls).perform w = (.ok c, w')) :
    w.Carries .alive w' ∧ c.wire = w.wires.length + 1 := by
  rw [openStandard_eq] at hrun
  obtain ⟨d, w₀, hdestination, hrun⟩ := Session.of_perform_bind_ok hrun
  obtain rfl : w = w₀ := congrArg Prod.snd hdestination
  rw [Session.perform_bind_of_ok (World.perform_newWire w)] at hrun
  obtain ⟨_, w₁, hdial, hreturn⟩ := Session.of_perform_bind_ok hrun
  have hdialled := dial_carries (c := { wire := w.wires.length + 1, environment := e, namespaceName := d.2 }) rfl d.1
  rw [hdial] at hdialled
  cases hreturn
  exact ⟨hdialled, rfl⟩

/-- Giving up after a failed upgrade goes through if the request does. -/
theorem giveUp_ok {ch : Channel} (h : ((World.unbindWire ch.connection.wire).perform ch.world).1 = .ok ()) :
    ((Exchange.close.rescue fun e => if e.isOrdinary then some (return) else none).perform ch).1 = .ok () := by
  have hclose : (Exchange.close.perform ch).1 = .ok () := by
    rw [Exchange.close_eq]
    dsimp only
    rw [h]
    rfl
  rw [Session.perform_rescue]
  rcases hrun : Exchange.close.perform ch with ⟨e | _, ch'⟩
  · rw [hrun] at hclose
    cases hclose
  · rfl

/-- **The upgrade** of a new connection: if it fails, the wire is ended after every failure that can be caught. -/
theorem upgrade_fails {ch : Channel} (h : w.Carries .alive w') (hwire : c.wire = w.wires.length + 1)
    (hrun : upgrade.perform ⟨c, w'⟩ = (.error failure, ch)) :
    FailsOver Failure.isOrdinary w failure ch.world := by
  obtain ⟨e, ch₁, hstart, hafter⟩ := Session.of_perform_onFailure_error hrun
  -- the request to upgrade is one more use of the wire
  obtain ⟨verdict, hhears, hwire₁, hlength, -⟩ := Exchange.startTls_hears ⟨c, w'⟩
  have hproceeds := Exchange.startTls_proceeds ⟨c, w'⟩
  have hopen := Exchange.startTls_isOpenAt ⟨c, w'⟩ (w.wires.length + 1)
  rw [hstart] at hhears hwire₁ hlength hproceeds hopen
  have hwire₁ : ch₁.connection.wire = w.wires.length + 1 := hwire₁.trans hwire
  have huses : World.Converses (fun request => request.isUse = true) (w.wires.length + 1) w' ch₁.world :=
    ⟨hlength, _, hhears, List.forall_mem_singleton.mpr ⟨hwire, rfl⟩⟩
  have hstarted : w.Carries .alive ch₁.world := h.used huses hproceeds.world.directory hopen
  rcases hafter with ⟨hpassed, rfl, rfl⟩ | ⟨hordinary, rfl, hfailure⟩
  · exact .left _ _ hstarted hpassed
  · have hstate : (Exchange.close.perform ch₁).2.world =
        ((World.unbindWire (w.wires.length + 1)).perform ch₁.world).2 := by
      rw [Exchange.close_eq, hwire₁]
    rw [state_giveUp, hstate]
    apply FailsOver.ended _ _ hstarted
    intro hunbind
    rw [← hwire₁] at hunbind
    rw [hfailure (giveUp_ok hunbind)]
    exact hordinary

/-- **Opening an encrypted connection**. -/
theorem openEncrypted_fails {e : Environment} {policy : TlsArguments}
    (hrun : (openEncrypted .standard e policy).perform w = (.error failure, w')) :
    FailsOver Failure.isOrdinary w failure w' := by
  rw [openEncrypted] at hrun
  rcases hbuild : policy.build with fault | tls
  · rw [hbuild, Session.perform_bind_of_error (Session.perform_ofExcept (.error fault) w)] at hrun
    cases hrun
    exact .unsent failure
  rw [hbuild, Session.perform_bind_of_ok (Session.perform_ofExcept (.ok tls) w)] at hrun
  rcases Session.of_perform_bind_error hrun with ⟨c, w₁, hopen, hrest⟩ | hopen
  · obtain ⟨hcarries, hwire⟩ := openStandard_carries hopen
    rcases Session.of_perform_bind_error hrest with ⟨⟨_, _⟩, _, -, hreturn⟩ | hrest
    · cases hreturn
    · rw [perform_run] at hrest
      rcases hupgrade : upgrade.perform ⟨c, w₁⟩ with ⟨e' | version, ch⟩
      all_goals
        rw [hupgrade] at hrest
        cases hrest
      exact upgrade_fails hcarries hwire hupgrade
  · refine openStandard_fails ?_ hopen
    -- it is not bound, so that no bind can fail
    rintro ⟨⟩

end Connection

/-! ## §4 The transcript -/

namespace Heard

/-- The request has opened a wire. -/
def opens (x : Heard) : Bool :=
  match x.event.request, x.verdict with
  | .connect _, .ok _ => true
  | _, _ => false

/-- The request should have ended a connection, and has failed. -/
def failsToEnd (x : Heard) : Bool :=
  match x.event.request, x.verdict with
  | .unbind, .error _ => true
  | _, _ => false

/-- The request is to end the connection on wire `n`. -/
def ends (n : Nat) (x : Heard) : Bool :=
  x.event.wire == n && x.event.request.isUnbind

theorem ends_eq_false {x : Heard} (h : x.event.request ≠ .unbind) (n : Nat) : x.ends n = false := by
  rcases x with ⟨⟨wire, request⟩, verdict⟩
  cases request with
  | unbind => exact absurd rfl h
  | _ => exact Bool.and_false _

end Heard

/-- Nothing has opened a wire that could not be opened. -/
theorem Life.of_after_failed {es : List Heard} (h : unborn.after es = some failed) : ∀ x ∈ es, x.opens = false := by
  rcases List.eq_nil_or_concat es with rfl | ⟨before, x, rfl⟩
  · cases h
  rw [List.concat_eq_append] at h ⊢
  obtain ⟨p, hbefore, hnext⟩ := of_after_append_singleton h
  rcases x with ⟨⟨wire, request⟩, verdict⟩
  -- only a request to open the wire makes it fail, and only as the first one
  cases p with
  | unborn =>
    obtain rfl := eq_nil_of_after_unborn hbefore
    rw [List.nil_append]
    refine List.forall_mem_singleton.mpr ?_
    cases request with
    | connect opening =>
      cases verdict with
      | error e => rfl
      | ok passed => cases hnext
    | _ => cases hnext
  | alive => cases request <;> cases hnext
  | failed => cases hnext
  | ended => cases hnext

namespace World

/-- What was sent between two worlds, and what became of it in the end. -/
def recount (w w' : World) : List Heard :=
  (w.heard w').map (Heard.settledBy w.directory)

end World

namespace Connection

variable {p : Failure → Bool} {w w' : World} {failure : Failure}

/-- **What a failure leaves**, if the wire had been opened and could be ended: the wire is ended if the failure is
selected, and otherwise it is left open. -/
theorem FailsOver.leaves (h : FailsOver p w failure w') (hextends : World.Extends w w')
    (hopened : ∃ x ∈ w.recount w', x.opens = true) (hends : ∀ x ∈ w.recount w', x.failsToEnd = false) :
    ((∃ x ∈ w.recount w', x.ends (w.wires.length + 1) = true) ↔ p failure = true) ∧
      w'.openWires = if p failure then w.openWires else w.openWires ++ [w.wires.length + 1] := by
  obtain ⟨y, hy, hopened⟩ := hopened
  cases h with
  | unsent =>
    have hnone : ([] : List Heard) = w.recount w := (World.Recounts.nil rfl (.nil rfl rfl)).eq_heard
    rw [← hnone] at hy
    cases hy
  | unopened _ hcarries =>
    obtain ⟨es, hes, -, hlife⟩ := hcarries.bears.recounts
    have hrecount : es = w.recount w' := hes.eq_heard
    rw [← hrecount] at hy
    rw [Life.of_after_failed hlife y hy] at hopened
    cases hopened
  | left _ hcarries hp =>
    obtain ⟨es, hes, -, hlife⟩ := hcarries.bears.recounts
    have hrecount : es = w.recount w' := hes.eq_heard
    rw [← hrecount]
    constructor
    · -- a wire that is alive has not been ended
      constructor
      · rintro ⟨x, hx, hended⟩
        rw [Heard.ends_eq_false ((Life.of_after_alive hlife).2 x hx)] at hended
        cases hended
      · intro hselected
        rw [hp] at hselected
        cases hselected
    · rw [hcarries.openWires hextends, hp]
      rfl
  | ended w₁ hcarries hp =>
    obtain ⟨es, hes, -, -⟩ := hcarries.bears.recounts
    -- the last request is the one to end the wire
    obtain ⟨verdict, hunbind, hresult⟩ := World.unbindWire_recounts w₁ (w.wires.length + 1)
    have hrecount := (hes.trans hunbind).eq_heard
    have hmem := List.mem_append_right es (List.mem_singleton_self (Heard.mk ⟨w.wires.length + 1, .unbind⟩ verdict))
    rw [hrecount] at hmem
    have hselected : p failure = true := by
      apply hp
      rw [hresult]
      rcases verdict with e | passed
      · have hfails := hends _ hmem
        cases hfails
      · rfl
    constructor
    · refine ⟨fun _ => hselected, fun _ => ⟨_, hmem, ?_⟩⟩
      show (w.wires.length + 1 == w.wires.length + 1 && true) = true
      simp
    · rw [hcarries.ended.openWires hextends, hselected]
      rfl

/-! ## §5 The theorem -/

/-- The ways of opening a connection to the directory. -/
inductive Way where
  /-- As it is, and bound at once or not. -/
  | plain (bindNow : Bool) (tls : Option TlsSettings)
  /-- Encrypted, and bound later. -/
  | encrypted (policy : TlsArguments)

namespace Way

/-- Open a connection. -/
def connect (e : Environment) : Way → Session World Connection
  | plain bindNow tls => openStandard e bindNow tls
  | encrypted policy => openEncrypted .standard e policy

/-- The failures after which the opened wire is ended. -/
def cleansUpAfter : Way → Failure → Bool
  | plain _ _ => Failure.isClassified
  | encrypted _ => Failure.isOrdinary

theorem connect_fails {way : Way} {e : Environment} (h : (way.connect e).perform w = (.error failure, w')) :
    FailsOver way.cleansUpAfter w failure w' := by
  cases way with
  | plain bindNow tls => exact openStandard_fails (fun _ => rfl) h
  | encrypted policy => exact openEncrypted_fails h

theorem connect_extends (way : Way) (e : Environment) : (way.connect e).Respects World.Extends := by
  cases way with
  | plain bindNow tls => exact openAs_extends .standard e bindNow tls
  | encrypted policy => exact openWith_extends .standard (some policy) e

end Way

end Connection

open Connection

/-- **What a failed opening leaves.** Let opening a connection fail after its wire was opened, and let no request to end
a connection fail. Then the new connection has been ended before the failure is passed on exactly if the failure is of
the kind that is cleaned up after: for a plain connection one that the realm has classified, for an encrypted one any
that can be caught. In that case the open wires are those from before. After any other failure, such as one of the
driver's own when a plain connection is bound, the new wire stays open as well, and nobody has it. -/
theorem failed_opening_leaves {way : Way} {e : Environment} {w w' : World} {failure : Failure}
    (h : (way.connect e).perform w = (.error failure, w'))
    (hopened : ∃ x ∈ w.recount w', x.opens = true) (hends : ∀ x ∈ w.recount w', x.failsToEnd = false) :
    ((∃ x ∈ w.recount w', x.ends (w.wires.length + 1) = true) ↔ way.cleansUpAfter failure = true) ∧
      w'.openWires =
        if way.cleansUpAfter failure then w.openWires else w.openWires ++ [w.wires.length + 1] :=
  (Way.connect_fails h).leaves ((way.connect_extends e).of_perform h) hopened hends

/-! ### Runs -/

/-- A directory that knows nobody, and a fault that is due when somebody is bound. -/
def World.failingBind (failure : Failure) : World where
  faults := [{ on := some .bind, skip := 0, failure := some failure }]

/-- An environment without an identity. -/
def Environment.ofNobody : Environment :=
  [(Environment.providerUrl, .text "ldap://directory")]

/-- A rejected bind is classified, and the wire is ended. -/
theorem rejected_bind_leaves_nothing :
    ∃ w', ((Way.plain true none).connect .ofNobody).perform
        (.failingBind (.client ⟨"LDAPInvalidCredentialsResult", ""⟩)) =
          (.error (.directory (.reported .authentication ⟨"LDAPInvalidCredentialsResult", ""⟩)), w') ∧
      w'.openWires = [] := by
  have hrun : ((Way.plain true none).connect .ofNobody).perform
        (.failingBind (.client ⟨"LDAPInvalidCredentialsResult", ""⟩)) =
          (.error (.directory (.reported .authentication ⟨"LDAPInvalidCredentialsResult", ""⟩)),
            (((Way.plain true none).connect .ofNobody).perform
              (.failingBind (.client ⟨"LDAPInvalidCredentialsResult", ""⟩))).2) := by
    refine Prod.ext ?_ rfl
    rfl
  obtain ⟨-, hopen⟩ := failed_opening_leaves hrun (by decide +kernel) (by decide +kernel)
  exact ⟨_, hrun, hopen⟩

/-- A failure of the driver's own is not classified: nothing is sent to end the connection, and the wire stays open. -/
theorem driver_failure_leaves_wire :
    ∃ w', ((Way.plain true none).connect .ofNobody).perform
        (.failingBind (.defect (.other "RuntimeError") "driver broke")) =
          (.error (.defect (.other "RuntimeError") "driver broke"), w') ∧
      w'.events.map (fun event => (event.wire, event.request.call?)) = [(1, some .connect), (1, some .bind)] ∧
      w'.openWires = [1] := by
  refine ⟨_, Prod.ext ?_ rfl, ?_, ?_⟩
  · rfl
  · decide +kernel
  · decide +kernel

end DirectoryLogin

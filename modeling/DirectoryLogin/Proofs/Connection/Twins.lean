import DirectoryLogin.Proofs.Opening
import DirectoryLogin.Proofs.Twins
/-!
# Connections of Two Runs

A connection to the directory compares identities, binds, searches and reads. Over twins, that is over connections that
differ in an unknown password at most, each of these ends the same way and leaves twins. Opening a connection is the
same in both runs, since it is opened as the service.

- `Exchange.bind_coupled`, `Exchange.search_coupled`, `Exchange.read_coupled`: the requests.
- `Exchange.bracketed_coupled`: acting under an identity that is another one in each run.
- `Connection.establish_coupled`: opening.
-/

namespace DirectoryLogin

open Session (Coupled EndsAlike)
open World (Public)

variable {p q : Password} {α : Type}

/-! ## §1 Connections and channels -/

/-- Two connections to the directory that differ in the password at most, whether it is the one in the environment or
the one that is bound. -/
structure Connection.Twins (p q : Password) (c c' : Connection) : Prop where
  standard : c.kind = .standard
  kind : c'.kind = c.kind
  wire : c'.wire = c.wire
  namespaceName : c'.namespaceName = c.namespaceName
  environment : c.environment.Twins p q c'.environment
  bound : Option.Rel (Identity.Twins p q) c.bound c'.bound

structure Channel.Twins (p q : Password) (ch ch' : Channel) : Prop where
  connection : ch.connection.Twins p q ch'.connection
  world : ch.world.Twins p q ch'.world

namespace Connection.Twins

variable {c c' : Connection} (h : c.Twins p q c')
include h

theorem withEnvironment {e e' : Environment} (he : e.Twins p q e') :
    Connection.Twins p q { c with environment := e } { c' with environment := e' } :=
  ⟨h.standard, h.kind, h.wire, h.namespaceName, he, h.bound⟩

/-- **Twins bind again together.** -/
theorem isBound_eq : c'.isBound = c.isBound := by
  unfold Connection.isBound
  have hbound := h.bound
  generalize c.bound = bound, c'.bound = bound' at hbound
  cases hbound with
  | some hidentity => exact (h.environment.identity.same_eq hidentity).symm
  | none => rfl

theorem fullName_eq (name : String) : c'.fullName name = c.fullName name := by
  rw [fullName, fullName, h.namespaceName]

theorem searchRequest_eq (base filter : String) (controls : SearchControls) :
    Exchange.searchRequest c' base filter controls = Exchange.searchRequest c base filter controls := by
  simp only [Exchange.searchRequest, h.fullName_eq, h.environment.dereference_eq]

theorem readRequest_eq (dn : String) (names : Option (List String)) :
    Exchange.readRequest c' dn names = Exchange.readRequest c dn names := by
  simp only [Exchange.readRequest, h.fullName_eq, h.environment.dereference_eq]

end Connection.Twins

namespace Exchange

/-! ## §2 Steps on a connection -/

variable {Q : α → α → Prop} {x y : Exchange α}

theorem onWorld_coupled {x y : Session World α} (hx : Coupled (World.Twins p q) Q x y) :
    Coupled (Channel.Twins p q) Q (onWorld x) (onWorld y) :=
  .within hx (fun _ _ h => h.world) fun _ _ _ _ h hworld => ⟨h.connection, hworld⟩

theorem connection_coupled : Coupled (Channel.Twins p q) (Connection.Twins p q) connection connection :=
  fun _ _ h => ⟨.ok h.connection, h⟩

theorem modifyConnection_coupled {f g : Connection → Connection}
    (hfg : ∀ c c', Connection.Twins p q c c' → (f c).Twins p q (g c')) :
    Coupled (Channel.Twins p q) Eq (modifyConnection f) (modifyConnection g) :=
  .modify fun _ _ h => ⟨hfg _ _ h.connection, h.world⟩

theorem classified_coupled (hx : Coupled (Channel.Twins p q) Q x y) :
    Coupled (Channel.Twins p q) Q (classified x) (classified y) := by
  refine .rescue hx fun e => ?_
  cases e with
  | client e =>
    refine .some (.bind connection_coupled fun c c' h => ?_)
    rw [h.environment.throwsReferrals_eq]
    exact .throw _
  | _ => exact .none

/-- A refused request fails. -/
theorem ifAccepted_coupled (hx : Coupled (Channel.Twins p q) Q x y) (e : Failure) (accepted : Bool) :
    Coupled (Channel.Twins p q) Q
      (do if !accepted then throw e
          x) (do if !accepted then throw e
                 y) := by
  split
  · exact .bind_same (.throw _) fun _ => hx
  · exact hx

/-- **Binding**, where it is needed, ends the same way. -/
theorem bind_coupled : Coupled (Channel.Twins p q) Eq bind bind := by
  refine .bind connection_coupled fun c c' h => ?_
  rw [h.isBound_eq]
  split
  · exact .pure rfl
  -- what is bound afterwards is the identity of the environment before, so that twins stay twins
  refine .bind (.ofExcept h.environment.request) fun request request' hrequest => ?_
  have hunbound : Coupled (Channel.Twins p q) Eq (modifyConnection fun c => { c with bound := none })
      (modifyConnection fun c => { c with bound := none }) := modifyConnection_coupled fun _ _ h =>
    ⟨h.standard, h.kind, h.wire, h.namespaceName, h.environment, .none⟩
  have hbound : Coupled (Channel.Twins p q) Eq
      (modifyConnection fun d => { d with bound := some c.environment.identity })
      (modifyConnection fun d => { d with bound := some c'.environment.identity }) :=
    modifyConnection_coupled fun _ _ hd =>
      ⟨hd.standard, hd.kind, hd.wire, hd.namespaceName, hd.environment, .some h.environment.identity⟩
  refine .bind_same hunbound fun _ => ?_
  rw [h.wire]
  exact .bind_same (classified_coupled (onWorld_coupled (World.bindWire_coupled _ hrequest))) fun accepted =>
    ifAccepted_coupled hbound _ accepted

/-! ## §3 Searching and reading -/

theorem search_coupled (base filter : String) (controls : SearchControls) :
    Coupled (Channel.Twins p q) (Public p q Results.texts) (search base filter controls)
      (search base filter controls) := by
  refine .bind_same bind_coupled fun _ => .bind connection_coupled fun c c' h => ?_
  rw [h.kind, h.standard]
  dsimp only
  rw [h.wire, h.searchRequest_eq, h.environment.throwsReferrals_eq]
  refine .bind (classified_coupled (onWorld_coupled (World.searchWire_coupled _ _))) fun response _ hanswer => ?_
  cases hanswer.same
  exact .pure (hanswer.of_subset (Results.texts_ofResponse _ _ _))

/-- The texts of attributes that may be absent. -/
def textsRead (attributes : Option Attributes) : List String :=
  (attributes.getD []).texts

theorem read_coupled (dn : String) (names : Option (List String)) :
    Coupled (Channel.Twins p q) (Public p q textsRead) (read dn names) (read dn names) := by
  refine .bind_same bind_coupled fun _ => .bind connection_coupled fun c c' h => ?_
  rw [h.kind, h.standard]
  dsimp only
  rw [h.wire, h.readRequest_eq]
  refine .bind (classified_coupled (onWorld_coupled (World.searchWire_coupled _ _))) fun response _ hanswer => ?_
  -- the answers are the same, so the texts that were read come from the directory
  cases hanswer.same
  split
  · rename_i attributes hentry
    refine .pure (hanswer.of_subset ?_)
    rw [textsRead, Option.getD_some, Attributes.texts_decode]
    exact Response.texts_firstEntry? hentry
  · exact .throw _

/-! ## §4 Brackets -/

/-- **Acting under another identity**: twins go in and twins come out. -/
theorem bracketed_coupled {enter enter' : Environment → Environment}
    {leave leave' : Environment → Environment → Environment} (hx : Coupled (Channel.Twins p q) Q x y)
    (henter : ∀ e f, Environment.Twins p q e f → (enter e).Twins p q (enter' f))
    (hleave : ∀ e f e' f', Environment.Twins p q e f → Environment.Twins p q e' f' →
      (leave e e').Twins p q (leave' f f')) :
    Coupled (Channel.Twins p q) Q (bracketed enter leave x) (bracketed enter' leave' y) := by
  intro ch ch' h
  have henvironment := h.connection.environment
  obtain ⟨hresult, hstate⟩ := hx (ch.withEnvironment (enter ch.connection.environment))
    (ch'.withEnvironment (enter' ch'.connection.environment))
    ⟨h.connection.withEnvironment (henter _ _ henvironment), h.world⟩
  have hleft := hleave _ _ _ _ henvironment hstate.connection.environment
  exact ⟨hresult, hstate.connection.withEnvironment hleft, hstate.world⟩

variable {s : Settings} (hs : s.Spares p q)
include hs

theorem boundAs_coupled (name : Option String) {password password' : Option Password}
    (hpassword : Swapped (some p) (some q) password password') (hx : Coupled (Channel.Twins p q) Q x y) :
    Coupled (Channel.Twins p q) Q (boundAs s name password x) (boundAs s name password' y) := by
  rw [boundAs_eq, boundAs_eq]
  exact bracketed_coupled hx (fun _ _ h => h.asUser name hpassword) fun _ _ _ _ _ h => h.asService hs

end Exchange

/-! ## §5 Opening -/

namespace Exchange

theorem startTls_coupled : Coupled (Channel.Twins p q) Eq startTls startTls := by
  refine .bind connection_coupled fun c c' h => ?_
  rw [h.wire]
  refine .bind_same (classified_coupled (onWorld_coupled (World.send_coupled _ _ _ _))) fun accepted =>
    ifAccepted_coupled ?_ _ accepted
  -- both connections are marked, and the version is the directory's
  have hstarted : Coupled (Channel.Twins p q) Eq (modifyConnection fun c => { c with tlsStarted := true })
      (modifyConnection fun c => { c with tlsStarted := true }) := modifyConnection_coupled fun _ _ h =>
    ⟨h.standard, h.kind, h.wire, h.namespaceName, h.environment, h.bound⟩
  refine .bind_same hstarted fun _ => .bind_get fun ch ch' h => ?_
  obtain ⟨-, -, events, hworld⟩ := h.world
  rw [hworld]
  dsimp only
  split
  · exact .pure rfl
  · exact .pure rfl

theorem close_coupled : Coupled (Channel.Twins p q) Eq close close := by
  refine .bind connection_coupled fun c c' h => ?_
  rw [h.wire]
  refine .ensure (classified_coupled (onWorld_coupled (World.unbindWire_coupled _))) ?_
  exact modifyConnection_coupled fun _ _ h => ⟨h.standard, h.kind, h.wire, h.namespaceName, h.environment, .none⟩

end Exchange

namespace Connection

theorem run_coupled {Q : α → α → Prop} {x y : Exchange α} (hx : Coupled (Channel.Twins p q) Q x y) {c c' : Connection}
    (h : c.Twins p q c') :
    Coupled (World.Twins p q) (fun a b => Q a.1 b.1 ∧ a.2.Twins p q b.2) (c.run x) (c'.run y) := by
  intro w w' hw
  obtain ⟨hresult, hstate⟩ := hx ⟨c, w⟩ ⟨c', w'⟩ ⟨h, hw⟩
  rw [perform_run, perform_run]
  exact ⟨hresult.map fun _ _ hQ => ⟨hQ, hstate.connection⟩, hstate.world⟩

theorem abandon_coupled (n : Nat) : Coupled (World.Twins p q) Eq (abandon n) (abandon n) :=
  .rescue_if (World.unbindWire_coupled n) fun _ _ => .pure rfl

theorem dial_coupled {c c' : Connection} (h : c.Twins p q c') (request : OpenRequest) :
    Coupled (World.Twins p q) Eq (dial c request) (dial c' request) := by
  unfold dial
  rw [h.wire, h.environment.throwsReferrals_eq]
  refine .rescue (World.openWire_coupled _ _) fun e => ?_
  cases e with
  | client e => exact .some (.throw _)
  | _ => exact .none

theorem bindNew_coupled {c c' : Connection} (h : c.Twins p q c') :
    Coupled (World.Twins p q) (Connection.Twins p q) (bindNew c) (bindNew c') := by
  unfold bindNew
  rw [h.wire]
  exact .bind (.onFailure (run_coupled Exchange.bind_coupled h) fun _ => abandon_coupled _) fun _ _ h => .pure h.2

variable {e : Environment} (he : e.Twins p q e)
include he

theorem openStandard_coupled (bindNow : Bool) (tls : Option TlsSettings) :
    Coupled (World.Twins p q) (Connection.Twins p q) (openStandard e bindNow tls) (openStandard e bindNow tls) := by
  rw [openStandard_eq]
  refine .bind_same (.ofExcept_same _) fun d => .bind_same World.newWire_coupled fun n => ?_
  have hnew : Connection.Twins p q { wire := n, environment := e, namespaceName := d.2 }
      { wire := n, environment := e, namespaceName := d.2 } := ⟨rfl, rfl, rfl, rfl, he, .none⟩
  refine .bind_same (dial_coupled hnew _) fun _ => ?_
  split
  · exact bindNew_coupled hnew
  · exact .pure hnew

theorem openWith_coupled (policy : Option TlsArguments) :
    Coupled (World.Twins p q) (Connection.Twins p q) (openWith .standard policy e) (openWith .standard policy e) := by
  cases policy with
  | none => exact openStandard_coupled he true none
  | some policy =>
    have hupgrade : Coupled (Channel.Twins p q) Eq upgrade upgrade :=
      .onFailure Exchange.startTls_coupled fun _ => .rescue_if Exchange.close_coupled fun _ _ => .pure rfl
    refine .bind_same (.ofExcept_same _) fun tls =>
      .bind (openStandard_coupled he.withoutSecurity false (some tls)) fun c c' h => ?_
    -- without the entries that were held back there was no password at all; now it is the service's
    refine .bind (run_coupled hupgrade h) fun _ _ h => .pure ?_
    exact h.2.withEnvironment (h.2.environment.restoreSecurity he)

omit he

/-- **Opening a connection** as the service is the same in both runs. -/
theorem establish_coupled (policy : Option TlsArguments) {s : Settings} (hs : s.Spares p q) :
    Coupled (World.Twins p q) (Connection.Twins p q) (establish .standard policy s) (establish .standard policy s) := by
  refine .rescue (openWith_coupled (.ofSettings hs 0) policy) fun e => ?_
  split
  · exact .none
  refine .some ?_
  split
  · exact .throw _
  refine .bind_same (World.say_coupled _ _ _) fun _ => .rescue_if (openWith_coupled (.ofSettings hs 1) policy) ?_
  exact fun _ _ => .throw _

end Connection

end DirectoryLogin

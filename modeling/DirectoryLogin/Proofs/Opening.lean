import DirectoryLogin.Connection.Open
import DirectoryLogin.Proofs.Connection.Requests
import DirectoryLogin.Proofs.Environment
/-!
# What Opening a Connection Yields

Opening takes a new wire and touches no other. The connection that comes of it has the environment it was asked to
have, and if an identity is bound on it, the directory accepts that identity.

Encryption makes no difference to this, although the connection is opened without its security entries and gets them
back only after the upgrade.
-/

namespace DirectoryLogin

namespace World

/-- The world has moved on without touching the wires that were there. -/
structure Extends (w w' : World) : Prop where
  directory : w'.directory = w.directory
  length : w.wires.length ≤ w'.wires.length
  wires : ∀ k, k ≤ w.wires.length → w'.wire? k = w.wire? k
  quiet : w.faults = [] → w'.faults = []

instance : IsPreorder World Extends where
  refl _ := ⟨rfl, Nat.le_refl _, fun _ _ => rfl, id⟩
  trans _ _ _ h g :=
    ⟨g.directory.trans h.directory, Nat.le_trans h.length g.length,
      fun k hk => (g.wires k (Nat.le_trans hk h.length)).trans (h.wires k hk), g.quiet ∘ h.quiet⟩

/-- The world with one more wire. -/
def withNewWire (w : World) : World :=
  { w with wires := w.wires ++ [Wire.mk false .null] }

@[simp] theorem perform_newWire (w : World) : newWire.perform w = (.ok (w.wires.length + 1), w.withNewWire) := rfl

theorem withNewWire_extends (w : World) : Extends w w.withNewWire where
  directory := rfl
  length := by simp [withNewWire]
  wires k hk := by
    unfold wire? withNewWire
    split
    · rfl
    · rw [List.getElem?_append_left (by omega)]
  quiet := id

theorem isSome_wire?_iff {w : World} {n : Nat} : (w.wire? n).isSome ↔ n ≠ 0 ∧ n ≤ w.wires.length := by
  unfold wire?
  split
  · simp [*]
  · simp only [isSome_getElem?]
    omega

/-- What is done on the new wire touches no wire that was there before. -/
theorem Follows.extends {w w' : World} (h : Follows (w.wires.length + 1) w.withNewWire w') : Extends w w' where
  directory := h.directory
  length := by
    rw [h.length]
    exact (withNewWire_extends w).length
  wires k hk := by
    rw [h.others k (by omega)]
    exact (withNewWire_extends w).wires k hk
  quiet := h.quiet

/-- What is done on the new wire leaves it where it is. -/
theorem Follows.isSome_wire? {w w' : World} (h : Follows (w.wires.length + 1) w.withNewWire w') :
    (w'.wire? (w.wires.length + 1)).isSome := by
  rw [isSome_wire?_iff, h.length]
  simp [withNewWire]

theorem openWire_respects (n : Nat) (request : OpenRequest) : (openWire n request).Respects (Follows n) := by
  refine .bind (send_respects _ _ _) fun _ => .bind .get fun w => ?_
  split
  · exact .bind (.throw _) fun _ => .modify fun w => .updateWire w _
  · exact .modify fun w => .updateWire w _

end World

namespace Connection

/-! ## §1 Opening as a computation and a dialogue -/

/-- Where a connection goes, and the name under which its names are relative: all that is read off the environment
before anything is sent. -/
def destination (e : Environment) (tls : Option TlsSettings) : Except Failure (OpenRequest × String) := do
  let url := e.value Environment.providerUrl
  if !url.isGiven then throw .noUrl
  let some text := url.text?
    | throw (.defect .missingAttribute ("'" ++ url.kindName ++ "' object has no attribute 'strip'"))
  let target ← ProviderUrl.parse text
  let secure := target.secure || (e.value Environment.protocol).text? == some "ssl"
  let connectTimeout ← Timeout.ofValue (e.value Environment.connectTimeout)
  let receiveTimeout ← Timeout.ofValue (e.value Environment.readTimeout)
  return ({ host := target.host, port := target.port, secure := secure, connectTimeout := connectTimeout,
            receiveTimeout := receiveTimeout, followReferrals := e.followsReferrals, tls := tls },
          target.namespaceName)

/-- Open the wire of a new connection. -/
def dial (c : Connection) (request : OpenRequest) : Session World Unit :=
  (World.openWire c.wire request).rescue fun
    | .client error => some (throw (error.toFailure c.environment.throwsReferrals))
    | _ => none

/-- Bind a new connection; if that fails, give it up. -/
def bindNew (c : Connection) : Session World Connection := do
  let (_, c) ← (c.run Exchange.bind).onFailure Failure.isClassified fun _ => abandon c.wire
  return c

/-- A connection to the directory is opened on a new wire, once it is known where it goes. -/
theorem openStandard_eq (e : Environment) (bindNow : Bool) (tls : Option TlsSettings) :
    openStandard e bindNow tls =
      (Session.ofExcept (destination e tls) >>= fun d => World.newWire >>= fun n =>
        let c : Connection := { wire := n, environment := e, namespaceName := d.2 }
        dial c d.1 >>= fun _ => if bindNow then bindNew c else return c) := by
  refine Session.ext fun w => ?_
  unfold openStandard destination
  dsimp only
  -- both sides read the URL first, then the two time limits, and stop at the first that cannot be read
  by_cases hgiven : (e.value Environment.providerUrl).isGiven = true
  · rcases (e.value Environment.providerUrl).text? with _ | text
    · simp only [hgiven]
      rfl
    · simp only [hgiven]
      rcases ProviderUrl.parse text with _ | target
      · rfl
      rcases Timeout.ofValue (e.value Environment.connectTimeout) with _ | connectTimeout
      · rfl
      rcases Timeout.ofValue (e.value Environment.readTimeout) with _ | receiveTimeout
      · rfl
      · rfl
  · simp only [hgiven]
    rfl

/-! ## §2 What opening leaves alone -/

theorem perform_run {α : Type} (c : Connection) (x : Exchange α) (w : World) :
    (c.run x).perform w =
      ((x.perform ⟨c, w⟩).1.map (·, (x.perform ⟨c, w⟩).2.connection), (x.perform ⟨c, w⟩).2.world) := rfl

/-- The value of a step on a connection, and the channel that it leaves. -/
theorem of_run_ok {α : Type} {c c' : Connection} {x : Exchange α} {w w' : World} {a : α}
    (h : (c.run x).perform w = (.ok (a, c'), w')) : x.perform ⟨c, w⟩ = (.ok a, ⟨c', w'⟩) := by
  rw [perform_run] at h
  rcases hrun : x.perform ⟨c, w⟩ with ⟨_ | a', ch⟩
  · rw [hrun] at h
    cases h
  · rw [hrun] at h
    cases h
    rfl

theorem run_respects {α : Type} {x : Exchange α} (hx : x.Respects Channel.Proceeds) {c : Connection} {n : Nat}
    (hn : c.wire = n) : (c.run x).Respects (World.Follows n) :=
  fun w => hn ▸ (hx ⟨c, w⟩).world

theorem upgrade_proceeds : upgrade.Respects Channel.Proceeds :=
  .onFailure Exchange.startTls_proceeds fun _ => .rescue_if Exchange.close_proceeds fun _ _ => .pure _

theorem abandon_respects (n : Nat) : (abandon n).Respects (World.Follows n) :=
  .rescue_if (World.unbindWire_respects n) fun _ _ => .pure _

theorem dial_respects {c : Connection} {n : Nat} (hn : c.wire = n) (request : OpenRequest) :
    (dial c request).Respects (World.Follows n) := by
  refine .rescue (hn ▸ World.openWire_respects _ _) fun e y hy => ?_
  split at hy
  · cases hy
    exact .throw _
  · cases hy

theorem bindNew_respects {c : Connection} {n : Nat} (hn : c.wire = n) : (bindNew c).Respects (World.Follows n) :=
  .bind (.onFailure (run_respects Exchange.bind_proceeds hn) fun _ => hn ▸ abandon_respects _) fun _ => .pure _

section Respecting

-- whatever is respected by all that may happen on a new wire is respected by opening, whether it succeeds or not
variable {R : World → World → Prop}
  (hnew : ∀ {w w' : World}, World.Follows (w.wires.length + 1) w.withNewWire w' → R w w')
include hnew

theorem respects_of_newWire {α : Type} {f : Nat → Session World α} (hf : ∀ n, (f n).Respects (World.Follows n)) :
    (World.newWire >>= f).Respects R := by
  intro w
  rw [Session.perform_bind_of_ok (World.perform_newWire w)]
  exact hnew (hf _ w.withNewWire)

variable [IsPreorder World R]

theorem openAs_respects (kind : ConnectionKind) (e : Environment) (bindNow : Bool) (tls : Option TlsSettings) :
    (openAs kind e bindNow tls).Respects R := by
  cases kind with
  | standard =>
    rw [openAs, openStandard_eq]
    -- a wire is dialled, and StartTLS and the bind come on it when they are wanted
    refine .bind (.ofExcept _) fun d => respects_of_newWire hnew fun n => ?_
    refine .bind (dial_respects (c := { wire := n, environment := e, namespaceName := d.2 }) rfl d.1) fun _ => ?_
    split
    · exact bindNew_respects rfl
    · exact .pure _
  | prepared =>
    -- a prepared connection sends at most the bind
    refine respects_of_newWire hnew fun n => ?_
    split
    · exact .bind (run_respects Exchange.bind_proceeds rfl) fun _ => .pure _
    · exact .pure _

end Respecting

/-- Opening touches no wire that was there, whether it succeeds or not. -/
theorem openAs_extends (kind : ConnectionKind) (e : Environment) (bindNow : Bool) (tls : Option TlsSettings) :
    (openAs kind e bindNow tls).Respects World.Extends :=
  openAs_respects World.Follows.extends kind e bindNow tls

/-! ## §3 What opening yields -/

/-- The connection `c` was opened in the world `w`, with the environment `e`. -/
structure Opened (kind : ConnectionKind) (e : Environment) (w : World) (c : Connection) (w' : World) : Prop where
  kind : c.kind = kind
  wire : c.wire = w.wires.length + 1
  environment : c.environment.Agrees e
  world : World.Follows c.wire w.withNewWire w'
  bound : ∀ i, c.bound = some i → w.directory.Accepts i
  honest : Channel.Honest ⟨c, w'⟩

/-- A connection that nobody is bound on remembers nothing false. -/
theorem honest_of_unbound {c : Connection} {w : World} (hbound : c.bound = none) (hwired : (w.wire? c.wire).isSome) :
    Channel.Honest ⟨c, w⟩ where
  hasWire := by
    rw [Channel.wireUser, Option.isSome_map]
    exact hwired
  identified i hi := by
    have hi : c.bound = some i := hi
    rw [hbound] at hi
    cases hi

/-- A connection that nobody is bound on yet. -/
theorem Opened.of_new {kind : ConnectionKind} {e : Environment} {w w' : World} {c : Connection}
    (hkind : c.kind = kind) (hwire : c.wire = w.wires.length + 1) (hworld : World.Follows c.wire w.withNewWire w')
    (hbound : c.bound = none) (henvironment : c.environment = e) : Opened kind e w c w' where
  kind := hkind
  wire := hwire
  environment := henvironment ▸ .refl _
  world := hworld
  bound i hi := by
    rw [hbound] at hi
    cases hi
  honest := by
    refine honest_of_unbound hbound ?_
    rw [hwire] at hworld ⊢
    exact hworld.isSome_wire?

/-- Requests on the new connection keep what opening yields. -/
theorem Opened.proceeds {kind : ConnectionKind} {e : Environment} {w w' w'' : World} {c c' : Connection}
    (h : Opened kind e w c w') (hproceeds : Channel.Proceeds ⟨c, w'⟩ ⟨c', w''⟩) : Opened kind e w c' w'' where
  kind := hproceeds.kind.trans h.kind
  wire := hproceeds.wire.trans h.wire
  environment := by
    -- the wire and the environment stay, so what was sent since adds to what was sent while opening
    have heq : c'.environment = c.environment := hproceeds.environment
    rw [heq]
    exact h.environment
  world := by
    have heq : c'.wire = c.wire := hproceeds.wire
    rw [heq]
    exact trans_of (World.Follows _) h.world hproceeds.world
  bound i hi := by
    rcases hproceeds.bound i hi with hold | haccepts
    · exact h.bound i hold
    · have hdirectory : w'.directory = w.directory := h.world.directory
      exact hdirectory ▸ haccepts
  honest := hproceeds.honest h.honest

theorem of_bindNew_ok {c c' : Connection} {w w' : World} (h : (bindNew c).perform w = (.ok c', w')) :
    Exchange.bind.perform ⟨c, w⟩ = (.ok (), ⟨c', w'⟩) := by
  obtain ⟨⟨_, c₁⟩, w₁, hrun, hreturn⟩ := Session.of_perform_bind_ok h
  cases hreturn
  exact of_run_ok (Session.of_perform_onFailure_ok hrun)

/-- **What opening yields**, for either kind of connection. -/
theorem openAs_opened {kind : ConnectionKind} {e : Environment} {bindNow : Bool} {tls : Option TlsSettings}
    {w w' : World} {c : Connection} (h : (openAs kind e bindNow tls).perform w = (.ok c, w')) :
    Opened kind e w c w' := by
  have hbinds {c₀ c₁ : Connection} {w₁ w₂ : World} (hbind : Exchange.bind.perform ⟨c₀, w₁⟩ = (.ok (), ⟨c₁, w₂⟩)) :
      Channel.Proceeds ⟨c₀, w₁⟩ ⟨c₁, w₂⟩ := by
    have hproceeds := Exchange.bind_proceeds ⟨c₀, w₁⟩
    rwa [hbind] at hproceeds
  cases kind with
  | standard =>
    rw [openAs, openStandard_eq] at h
    obtain ⟨d, w₀, hdestination, h⟩ := Session.of_perform_bind_ok h
    obtain rfl : w = w₀ := congrArg Prod.snd hdestination
    rw [Session.perform_bind_of_ok (World.perform_newWire w)] at h
    obtain ⟨_, w₁, hdial, h⟩ := Session.of_perform_bind_ok h
    -- once the wire is open, nobody is bound on it, and the bind that may follow is one more request
    have hfollows := dial_respects (c := { wire := w.wires.length + 1, environment := e, namespaceName := d.2 })
      rfl d.1 w.withNewWire
    rw [hdial] at hfollows
    have hnew : Opened .standard e w
        { wire := w.wires.length + 1, environment := e, namespaceName := d.2 } w₁ :=
      .of_new rfl rfl hfollows rfl rfl
    split at h
    · exact hnew.proceeds (hbinds (of_bindNew_ok h))
    · cases h
      exact hnew
  | prepared =>
    rw [openAs, openPrepared, Session.perform_bind_of_ok (World.perform_newWire w)] at h
    have hfollows : World.Follows (w.wires.length + 1) w.withNewWire w.withNewWire := refl_of _ _
    have hnew : Opened .prepared e w { kind := .prepared, wire := w.wires.length + 1, environment := e }
        w.withNewWire := .of_new rfl rfl hfollows rfl rfl
    split at h
    · obtain ⟨⟨_, c₁⟩, w₁, hrun, h⟩ := Session.of_perform_bind_ok h
      cases h
      exact hnew.proceeds (hbinds (of_run_ok hrun))
    · cases h
      exact hnew

/-- The same with encryption: the environment is the whole one again. -/
theorem openEncrypted_opened {kind : ConnectionKind} {e : Environment} {policy : TlsArguments} {w w' : World}
    {c : Connection} (h : (openEncrypted kind e policy).perform w = (.ok c, w')) : Opened kind e w c w' := by
  obtain ⟨tls, w₀, hbuild, h⟩ := Session.of_perform_bind_ok h
  obtain rfl : w = w₀ := congrArg Prod.snd hbuild
  obtain ⟨c₀, w₁, hopen, h⟩ := Session.of_perform_bind_ok h
  obtain ⟨⟨_, c₁⟩, w₂, hupgrade, h⟩ := Session.of_perform_bind_ok h
  cases h
  have hproceeds := upgrade_proceeds ⟨c₀, w₁⟩
  rw [of_run_ok hupgrade] at hproceeds
  have hopened := (openAs_opened hopen).proceeds hproceeds
  exact ⟨hopened.kind, hopened.wire, Environment.restoreSecurity_agrees hopened.environment, hopened.world,
    hopened.bound, (Channel.steady_withEnvironment ⟨c₁, w'⟩ _).honest hopened.honest⟩

theorem openWith_opened {kind : ConnectionKind} {policy : Option TlsArguments} {e : Environment} {w w' : World}
    {c : Connection} (h : (openWith kind policy e).perform w = (.ok c, w')) : Opened kind e w c w' := by
  cases policy with
  | some policy => exact openEncrypted_opened h
  | none => exact openAs_opened h

theorem openWith_respects {R : World → World → Prop} [IsPreorder World R]
    (hnew : ∀ {w w' : World}, World.Follows (w.wires.length + 1) w.withNewWire w' → R w w') (kind : ConnectionKind)
    (policy : Option TlsArguments) (e : Environment) : (openWith kind policy e).Respects R := by
  cases policy with
  | none => exact openAs_respects hnew _ _ _ _
  | some policy =>
    refine .bind (.ofExcept _) fun tls w => ?_
    rcases hopen : (openAs kind (withoutSecurity e) false (some tls)).perform w with ⟨_ | c, w₁⟩
    · rw [Session.perform_bind_of_error hopen]
      have hrespects := openAs_respects hnew kind (withoutSecurity e) false (some tls) w
      rwa [hopen] at hrespects
    · -- the upgrade still runs on the new wire
      rw [Session.perform_bind_of_ok hopen]
      have hopened := openAs_opened hopen
      have hrespects {w₂ : World} (hupgrade : World.Follows c.wire w₁ w₂) : R w w₂ := by
        have hfollows := trans_of (World.Follows c.wire) hopened.world hupgrade
        rw [hopened.wire] at hfollows
        exact hnew hfollows
      refine hrespects (Session.Respects.bind (run_respects upgrade_proceeds rfl) (fun _ => ?_) w₁)
      exact .pure _

/-- Opening touches no wire that was there, encrypted or not. -/
theorem openWith_extends (kind : ConnectionKind) (policy : Option TlsArguments) (e : Environment) :
    (openWith kind policy e).Respects World.Extends :=
  openWith_respects World.Follows.extends kind policy e

/-! ## §4 The usual and the alternate URL -/

/-- Open a connection for some settings: to the usual URL, or to the alternate one if that fails. -/
def establish (kind : ConnectionKind) (policy : Option TlsArguments) (s : Settings) : Session World Connection :=
  (openWith kind policy (Environment.ofSettings s 0)).rescue fun e =>
    if !e.isOrdinary then none
    else some <|
      match s.alternateUrl with
      | none => throw (.unreachable s.connectionUrl e)
      | some alternate => do
        World.say .info .connections ("Connection to " ++ s.connectionUrl.getD "None" ++ " failed (" ++ e.message
          ++ "), trying alternate URL " ++ alternate)
        (openWith kind policy (Environment.ofSettings s 1)).rescue fun e' =>
          if e'.isOrdinary then some (throw (.unreachable (some alternate) e')) else none

theorem say_extends (level : Level) (source : Source) (text : String) :
    (World.say level source text).Respects World.Extends :=
  fun _ => ⟨rfl, Nat.le_refl _, fun _ _ => rfl, id⟩

section Establishing

variable {R : World → World → Prop} [IsPreorder World R] {kind : ConnectionKind} {policy : Option TlsArguments}
  (hopen : ∀ e, (openWith kind policy e).Respects R)
  (hsay : ∀ level source text, (World.say level source text).Respects R)
include hopen hsay

theorem establish_respects (s : Settings) : (establish kind policy s).Respects R := by
  refine .rescue (hopen _) fun e y hy => ?_
  split at hy
  · cases hy
  cases hy
  split
  · exact .throw _
  exact .bind (hsay _ _ _) fun _ => .rescue_if (hopen _) fun _ _ => .throw _

/-- A connection comes from one of the two attempts. What was tried before it has opened nothing that is left. -/
theorem establish_ok {s : Settings} {w w' : World} {c : Connection}
    (h : (establish kind policy s).perform w = (.ok c, w')) :
    ∃ (attempt : Int) (w₀ : World), (attempt = 0 ∨ attempt = 1) ∧ R w w₀ ∧
      (openWith kind policy (Environment.ofSettings s attempt)).perform w₀ = (.ok c, w') := by
  rw [establish, Session.perform_rescue] at h
  rcases husual : (openWith kind policy (Environment.ofSettings s 0)).perform w with ⟨e | c₀, w₁⟩
  · have hfirst : R w w₁ := (hopen _).of_perform husual
    rw [husual] at h
    dsimp only at h
    split at h
    · rename_i y hy
      split at hy
      · cases hy
      cases hy
      -- the usual URL has failed, so the connection comes from the alternate one
      split at h
      · cases h
      obtain ⟨_, w₂, hsaid, h⟩ := Session.of_perform_bind_ok h
      have hbefore : R w₁ w₂ := (hsay _ _ _).of_perform hsaid
      rcases Session.of_perform_rescue_if h with ⟨halternate, -⟩ | ⟨_, _, -, -, hreported⟩
      · exact ⟨1, w₂, .inr rfl, trans_of R hfirst hbefore, halternate⟩
      · cases hreported
    · cases h
  · rw [husual] at h
    cases h
    exact ⟨0, w, .inl rfl, refl_of R w, husual⟩

end Establishing

theorem establish_extends (kind : ConnectionKind) (policy : Option TlsArguments) (s : Settings) :
    (establish kind policy s).Respects World.Extends :=
  establish_respects (openWith_extends kind policy) say_extends s

/-- Whichever URL it was opened to, the connection has one of the two environments of the settings. -/
theorem establish_opened {kind : ConnectionKind} {policy : Option TlsArguments} {s : Settings} {w w' : World}
    {c : Connection} (h : (establish kind policy s).perform w = (.ok c, w')) :
    ∃ (attempt : Int) (w₀ : World), (attempt = 0 ∨ attempt = 1) ∧ World.Extends w w₀ ∧
      Opened kind (Environment.ofSettings s attempt) w₀ c w' := by
  obtain ⟨attempt, w₀, hattempt, hextends, hopen⟩ := establish_ok (openWith_extends kind policy) say_extends h
  exact ⟨attempt, w₀, hattempt, hextends, openWith_opened hopen⟩

/-- If neither URL can be reached, this is what is reported, unless the attempt was interrupted. -/
theorem establish_unreachable {kind : ConnectionKind} {policy : Option TlsArguments} {s : Settings} {w w' : World}
    {e : Failure} (h : (establish kind policy s).perform w = (.error e, w')) (hordinary : e.isOrdinary = true) :
    ∃ url cause, e = .unreachable url cause := by
  rw [establish, Session.perform_rescue] at h
  -- the usual URL comes first; what is not ordinary is passed on as it is
  rcases husual : (openWith kind policy (Environment.ofSettings s 0)).perform w with ⟨e₀ | c, w₁⟩
  · rw [husual] at h
    by_cases hordinary₀ : e₀.isOrdinary = true
    · simp only [hordinary₀, Bool.not_true, Bool.false_eq_true, if_false] at h
      split at h
      · cases h
        exact ⟨_, _, rfl⟩
      -- the alternate URL is tried after a message has been written
      obtain ⟨_, w₂, -, h⟩ | hsay := Session.of_perform_bind_error h
      · rw [Session.perform_rescue] at h
        rcases halternate : (openWith kind policy (Environment.ofSettings s 1)).perform w₂ with ⟨e₁ | c, w₃⟩
        · rw [halternate] at h
          by_cases hordinary₁ : e₁.isOrdinary = true
          · simp only [hordinary₁, if_true] at h
            cases h
            exact ⟨_, _, rfl⟩
          · simp only [hordinary₁] at h
            cases h
            exact absurd hordinary hordinary₁
        · rw [halternate] at h
          cases h
      · cases hsay
    · simp only [hordinary₀, Bool.not_false, if_true] at h
      cases h
      exact absurd hordinary hordinary₀
  · rw [husual] at h
    cases h

end Connection

end DirectoryLogin

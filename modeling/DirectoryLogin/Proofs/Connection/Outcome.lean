import DirectoryLogin.Proofs.Opening
import DirectoryLogin.Proofs.Similar
/-!
# What Opening Comes To

Without faults, whether a connection can be opened, to which of the two URLs, and what goes wrong otherwise, is a
matter of the settings and the directory. The wires that there are, and all that has been recorded, play no part.

- `Connection.establishOutcome`: what opening a connection for some settings comes to.
- `Connection.establish_run`: opening without faults comes to that.
- `Connection.Answers.unique`: an orderly program ends alike over all connections for some settings.
-/

namespace DirectoryLogin

namespace Connection

variable {kind : ConnectionKind} {policy : Option TlsArguments} {s : Settings} {e : Environment} {w w' : World}

/-! ## §1 Outcomes -/

/-- The outcome of a connection that is bound right away, or not. -/
def bindingOutcome (d : Directory) (e : Environment) (bindNow : Bool) (namespaceName : String) :
    Except Failure String :=
  if bindNow then (d.bindOutcome e).map fun _ => namespaceName else .ok namespaceName

/-- What a host that refuses connections makes of an attempt to open one. -/
def refusal (e : Environment) (request : OpenRequest) : Failure :=
  ClientError.toFailure ⟨"LDAPSocketOpenError", "refused by " ++ request.host ++ ":" ++ toString request.port⟩
    e.throwsReferrals

/-- What opening comes to without faults: the name under which names are relative, or a failure. -/
def openOutcome (d : Directory) (kind : ConnectionKind) (e : Environment) (bindNow : Bool)
    (tls : Option TlsSettings) : Except Failure String :=
  match kind with
  | .standard => do
    let target ← destination e tls
    if d.refuses target.1.host target.1.port then .error (refusal e target.1)
    else bindingOutcome d e bindNow target.2
  | .prepared => bindingOutcome d e bindNow ""

/-- The same with encryption, if there is a policy. -/
def openWithOutcome (d : Directory) (kind : ConnectionKind) (policy : Option TlsArguments) (e : Environment) :
    Except Failure String :=
  match policy with
  | some policy => do
    let tls ← policy.build
    openOutcome d kind (withoutSecurity e) false (some tls)
  | none => openOutcome d kind e true none

/-- What opening a connection for some settings comes to: the name under which names are relative, and the attempt
that succeeded. -/
def establishOutcome (d : Directory) (kind : ConnectionKind) (policy : Option TlsArguments) (s : Settings) :
    Except Failure (String × Int) :=
  match openWithOutcome d kind policy (Environment.ofSettings s 0) with
  | .ok name => .ok (name, 0)
  | .error e =>
    match s.alternateUrl with
    | none => .error (.unreachable s.connectionUrl e)
    | some alternate =>
      match openWithOutcome d kind policy (Environment.ofSettings s 1) with
      | .ok name => .ok (name, 1)
      | .error e' => .error (.unreachable (some alternate) e')

/-! ## §2 Failures to open can be caught -/

theorem parse_failsOrdinarily (text : String) : FailsOrdinarily (ProviderUrl.parse text) := by
  unfold ProviderUrl.parse
  -- what the reading of the text raises is turned into an ordinary failure
  have hfault {α : Type} (x : Except Url.Fault α) : FailsOrdinarily (x.mapError Url.Fault.toFailure) := by
    rcases x with fault | a
    · exact .error rfl
    · exact .ok a
  refine (hfault _).bind fun url => ?_
  dsimp only
  split
  · split
    · exact (hfault _).bind fun port => .ok _
    · exact .error rfl
  · exact .error rfl

theorem timeout_failsOrdinarily (v : Value) : FailsOrdinarily (Timeout.ofValue v) := by
  -- a text, well formed or not, and bytes are read as a number, which may fail in two ways
  have hnumeral (shown : Value) (cs : List Char) :
      FailsOrdinarily ((Number.integer cs).mapError (Timeout.numeralFailure shown)) := by
    rcases Number.integer cs with fault | n
    · cases fault with
      | malformed => exact .error rfl
      | tooLong digits => exact .error rfl
    · exact .ok n
  -- every other value is a number already, or not one at all
  have hwhole : FailsOrdinarily (Timeout.wholeNumber v) := by
    cases v with
    | flag b => exact .ok _
    | integer n => exact .ok _
    | real x => exact .ok _
    | text s => exact hnumeral _ _
    | broken b => exact hnumeral _ _
    | bytes data => exact hnumeral _ _
    | _ => exact .error rfl
  unfold Timeout.ofValue
  split
  · exact .ok _
  · exact hwhole.bind fun n => .ite (.ok _) (.ite (.error rfl) (.ok _))

theorem destination_failsOrdinarily (e : Environment) (tls : Option TlsSettings) :
    FailsOrdinarily (destination e tls) := by
  unfold destination
  refine .ite (.error rfl) ?_
  split
  · refine (parse_failsOrdinarily _).bind fun target => ?_
    exact (timeout_failsOrdinarily _).bind fun _ => (timeout_failsOrdinarily _).bind fun _ => .ok _
  · exact .error rfl

theorem bindingOutcome_failsOrdinarily (d : Directory) (e : Environment) (bindNow : Bool) (name : String) :
    FailsOrdinarily (bindingOutcome d e bindNow name) :=
  .ite ((d.bindOutcome_failsOrdinarily e).map _) (.ok _)

theorem openOutcome_failsOrdinarily (d : Directory) (kind : ConnectionKind) (e : Environment) (bindNow : Bool)
    (tls : Option TlsSettings) : FailsOrdinarily (openOutcome d kind e bindNow tls) := by
  cases kind with
  | standard =>
    refine (destination_failsOrdinarily e tls).bind fun target => .ite (.error rfl) ?_
    exact bindingOutcome_failsOrdinarily _ _ _ _
  | prepared => exact bindingOutcome_failsOrdinarily _ _ _ _

theorem openWithOutcome_failsOrdinarily (d : Directory) (kind : ConnectionKind) (policy : Option TlsArguments)
    (e : Environment) : FailsOrdinarily (openWithOutcome d kind policy e) := by
  cases policy with
  | none => exact openOutcome_failsOrdinarily _ _ _ _ _
  | some policy =>
    have hbuild : FailsOrdinarily policy.build := .ite (.ok _) (.error rfl)
    exact hbuild.bind fun tls => openOutcome_failsOrdinarily _ _ _ _ _

theorem establishOutcome_failsOrdinarily (d : Directory) (kind : ConnectionKind) (policy : Option TlsArguments)
    (s : Settings) : FailsOrdinarily (establishOutcome d kind policy s) := by
  unfold establishOutcome
  repeat' split
  · exact .ok _
  · exact .error rfl
  · exact .ok _
  · exact .error rfl

/-! ## §3 Opening without faults -/

theorem perform_abandon (hquiet : w.faults = []) (n : Nat) : ((abandon n).perform w).1 = .ok () := by
  rw [abandon, Session.perform_rescue, World.unbindWire_eq, hquiet]
  rfl

/-- Only the connection is kept of a step on it. -/
theorem result_keep (x : Session World (Unit × Connection)) (w : World) :
    ((x >>= fun y => match y with | (_, c) => return c).perform w).1 = (x.perform w).1.map (·.2) := by
  rw [Session.perform_bind]
  rcases x.perform w with ⟨_ | _, _⟩
  · rfl
  · rfl

theorem run_bind_outcome {c : Connection} (hquiet : w.faults = []) (hhonest : Channel.Honest ⟨c, w⟩) :
    (((c.run Exchange.bind).perform w).1.map (·.2)).map (·.namespaceName) =
      (w.directory.bindOutcome c.environment).map fun _ => c.namespaceName := by
  have hresult := Exchange.perform_bind_outcome ⟨c, w⟩ hquiet hhonest
  have hproceeds := Exchange.bind_proceeds ⟨c, w⟩
  rw [perform_run, hresult]
  rcases w.directory.bindOutcome c.environment with e | v
  · rfl
  · exact congrArg Except.ok hproceeds.namespaceName

theorem bindNew_outcome {c : Connection} (hquiet : w.faults = []) (hhonest : Channel.Honest ⟨c, w⟩) :
    ((bindNew c).perform w).1.map (·.namespaceName) =
      (w.directory.bindOutcome c.environment).map fun _ => c.namespaceName := by
  have hproceeds := Exchange.bind_proceeds ⟨c, w⟩
  have hrun : (((c.run Exchange.bind).onFailure Failure.isClassified fun _ => abandon c.wire).perform w).1 =
      ((c.run Exchange.bind).perform w).1 :=
    Session.result_onFailure fun _ => perform_abandon (hproceeds.world.quiet hquiet) c.wire
  rw [bindNew, result_keep, hrun, run_bind_outcome hquiet hhonest]

/-- Opening a wire fails only if the host refuses it. -/
theorem perform_openWire (hquiet : w.faults = []) (n : Nat) (request : OpenRequest) :
    ((World.openWire n request).perform w).1 =
      if w.directory.refuses request.host request.port then
        .error (.client ⟨"LDAPSocketOpenError", "refused by " ++ request.host ++ ":" ++ toString request.port⟩)
      else .ok () := by
  rw [World.openWire, Session.perform_bind_of_ok (World.send_eq_of_quiet hquiet .connect n (.connect request)),
    Session.perform_bind_of_ok (Session.perform_get _)]
  have hdirectory : (w.record n (.connect request)).directory = w.directory := rfl
  dsimp only
  rw [hdirectory, Session.perform_ite]
  split
  · rfl
  · rfl

theorem perform_dial {c : Connection} (hquiet : w.faults = []) (request : OpenRequest) :
    ((dial c request).perform w).1 =
      if w.directory.refuses request.host request.port then .error (refusal c.environment request) else .ok () := by
  have hopen := perform_openWire hquiet c.wire request
  rw [dial, Session.perform_rescue]
  rcases hrun : (World.openWire c.wire request).perform w with ⟨result, w'⟩
  rw [hrun] at hopen
  dsimp only at hopen
  subst hopen
  by_cases hrefuses : w.directory.refuses request.host request.port = true
  · simp only [hrefuses, if_true]
    rfl
  · simp only [hrefuses]
    rfl

theorem openStandard_outcome (e : Environment) (bindNow : Bool) (tls : Option TlsSettings) (hquiet : w.faults = []) :
    ((openStandard e bindNow tls).perform w).1.map (·.namespaceName) =
      openOutcome w.directory .standard e bindNow tls := by
  rw [openStandard_eq, openOutcome]
  rcases htarget : destination e tls with error | target
  · rfl
  rw [Session.perform_bind_of_ok (Session.perform_ofExcept (.ok target) w),
    Session.perform_bind_of_ok (World.perform_newWire w)]
  generalize hc : ({ wire := w.wires.length + 1, environment := e, namespaceName := target.2 } : Connection) = c
  have hdial := perform_dial (c := c) (w := w.withNewWire) hquiet target.1
  have hfollows := dial_respects (c := c) rfl target.1 w.withNewWire
  dsimp only
  rw [Session.perform_bind]
  rcases hrun : (dial c target.1).perform w.withNewWire with ⟨result, w₁⟩
  rw [hrun] at hdial hfollows
  dsimp only at hdial hfollows
  have hdirectory : w.withNewWire.directory = w.directory := rfl
  have hw₁ : w₁.directory = w.directory := hfollows.directory
  rw [hdirectory] at hdial
  change _ = if w.directory.refuses target.1.host target.1.port then _ else _
  by_cases hrefuses : w.directory.refuses target.1.host target.1.port = true
  · rw [if_pos hrefuses] at hdial ⊢
    subst hdial hc
    rfl
  · -- the host answers, and the new connection is honest: nobody is bound on it
    rw [if_neg hrefuses] at hdial ⊢
    subst hdial hc
    dsimp only
    unfold bindingOutcome
    rw [Session.perform_ite]
    split
    · rw [bindNew_outcome (hfollows.quiet hquiet) (honest_of_unbound rfl hfollows.isSome_wire?), hw₁]
    · rfl

theorem openPrepared_outcome (e : Environment) (bindNow : Bool) (tls : Option TlsSettings) (hquiet : w.faults = []) :
    ((openPrepared e bindNow).perform w).1.map (·.namespaceName) =
      openOutcome w.directory .prepared e bindNow tls := by
  rw [openPrepared, openOutcome, bindingOutcome, Session.perform_bind_of_ok (World.perform_newWire w)]
  dsimp only
  rw [Session.perform_ite]
  split
  · have hhonest : Channel.Honest
        ⟨{ kind := .prepared, wire := w.wires.length + 1, environment := e }, w.withNewWire⟩ :=
      honest_of_unbound rfl (World.Follows.isSome_wire? (refl_of _ _))
    rw [result_keep, run_bind_outcome (w := w.withNewWire) hquiet hhonest]
    rfl
  · rfl

theorem openAs_outcome (kind : ConnectionKind) (e : Environment) (bindNow : Bool) (tls : Option TlsSettings)
    (hquiet : w.faults = []) :
    ((openAs kind e bindNow tls).perform w).1.map (·.namespaceName) =
      openOutcome w.directory kind e bindNow tls := by
  cases kind with
  | standard => exact openStandard_outcome e bindNow tls hquiet
  | prepared => exact openPrepared_outcome e bindNow tls hquiet

/-- The upgrade of a connection goes through. -/
theorem perform_upgrade (ch : Channel) (hquiet : ch.world.faults = []) :
    ∃ version, (upgrade.perform ch).1 = .ok version := by
  -- without faults StartTLS succeeds, with whatever version
  have hstarted : ∃ version, (Exchange.startTls.perform ch).1 = .ok version := by
    simp only [Exchange.startTls, Session.perform_bind, Exchange.perform_connection, Exchange.perform_classified,
      Exchange.perform_onWorld, World.startTlsWire, World.send_eq_of_quiet hquiet, Except.mapError, Bool.not_true,
      Bool.false_eq_true, if_false, Exchange.perform_modifyConnection, Session.perform_get]
    split
    · exact ⟨_, rfl⟩
    · exact ⟨_, rfl⟩
  obtain ⟨version, hstarted⟩ := hstarted
  refine ⟨version, ?_⟩
  rw [upgrade, Session.perform_onFailure]
  rcases hrun : Exchange.startTls.perform ch with ⟨result, ch'⟩
  rw [hrun] at hstarted
  cases hstarted
  rfl

theorem openWith_outcome (kind : ConnectionKind) (policy : Option TlsArguments) (e : Environment)
    (hquiet : w.faults = []) :
    ((openWith kind policy e).perform w).1.map (·.namespaceName) = openWithOutcome w.directory kind policy e := by
  cases policy with
  | none => exact openAs_outcome kind e true none hquiet
  | some policy =>
    rw [openWith, openEncrypted, openWithOutcome]
    rcases policy.build with error | tls
    · rfl
    rw [Session.perform_bind_of_ok (Session.perform_ofExcept (.ok tls) w), Session.perform_bind]
    have houtcome := openAs_outcome kind (withoutSecurity e) false (some tls) hquiet
    have hquiet₁ := (openAs_extends kind (withoutSecurity e) false (some tls) w).quiet hquiet
    rcases hopen : (openAs kind (withoutSecurity e) false (some tls)).perform w with ⟨error | c, w₁⟩
    · rw [hopen] at houtcome
      exact houtcome
    · rw [hopen] at houtcome hquiet₁
      -- the upgrade neither fails nor touches the name
      obtain ⟨version, hupgrade⟩ := perform_upgrade ⟨c, w₁⟩ hquiet₁
      have hproceeds := upgrade_proceeds ⟨c, w₁⟩
      dsimp only
      rw [Session.perform_bind, perform_run, hupgrade]
      exact (congrArg Except.ok hproceeds.namespaceName).trans houtcome

/-! ## §4 Opening for some settings -/

/-- A connection that was opened, and the outcome that stands for it. -/
structure Established (kind : ConnectionKind) (policy : Option TlsArguments) (s : Settings) (ch : Channel) : Prop where
  outcome : ∃ attempt, establishOutcome ch.world.directory kind policy s = .ok (ch.connection.namespaceName, attempt) ∧
    ch.connection.environment.Agrees (Environment.ofSettings s attempt)
  kind : ch.connection.kind = kind
  quiet : ch.world.faults = []
  honest : ch.Honest

theorem Established.of_opened {attempt : Int} {w₀ : World} {c : Connection} (hquiet : w₀.faults = [])
    (hopened : Opened kind (Environment.ofSettings s attempt) w₀ c w')
    (houtcome : establishOutcome w₀.directory kind policy s = .ok (c.namespaceName, attempt)) :
    Established kind policy s ⟨c, w'⟩ where
  outcome := by
    have hdirectory : w'.directory = w₀.directory := hopened.world.directory
    exact ⟨attempt, hdirectory ▸ houtcome, hopened.environment⟩
  kind := hopened.kind
  quiet := hopened.world.quiet hquiet
  honest := hopened.honest

/-- **Opening without faults**: what comes of it is as the outcome says. -/
theorem establish_run (kind : ConnectionKind) (policy : Option TlsArguments) (s : Settings) (hquiet : w.faults = []) :
    (∃ c w', (establish kind policy s).perform w = (.ok c, w') ∧ Established kind policy s ⟨c, w'⟩) ∨
      ∃ e w', (establish kind policy s).perform w = (.error e, w') ∧
        establishOutcome w.directory kind policy s = .error e := by
  have hextends := openWith_extends kind policy (Environment.ofSettings s 0) w
  have husual := openWith_outcome kind policy (Environment.ofSettings s 0) hquiet
  rw [establish, Session.perform_rescue]
  rcases hrun : (openWith kind policy (Environment.ofSettings s 0)).perform w with ⟨e | c, w₁⟩
  · rw [hrun] at husual hextends
    have husual : openWithOutcome w.directory kind policy (Environment.ofSettings s 0) = .error e := husual.symm
    have hordinary := openWithOutcome_failsOrdinarily _ _ _ _ e husual
    simp only [hordinary, Bool.not_true, Bool.false_eq_true, if_false]
    rcases halternate : s.alternateUrl with _ | alternate
    · refine .inr ⟨_, w₁, rfl, ?_⟩
      simp only [establishOutcome, husual, halternate]
    -- the message changes neither the directory nor the faults
    dsimp only
    rw [Session.perform_bind_of_ok (World.perform_say .info .connections _ w₁), Session.perform_rescue]
    generalize hwrite : w₁.write _ = w₂
    have hquiet₂ : w₂.faults = [] := hwrite ▸ hextends.quiet hquiet
    have hdirectory : w₂.directory = w.directory := hwrite ▸ hextends.directory
    have hother := openWith_outcome kind policy (Environment.ofSettings s 1) hquiet₂
    rcases hrun' : (openWith kind policy (Environment.ofSettings s 1)).perform w₂ with ⟨e' | c, w₃⟩
    · rw [hrun', hdirectory] at hother
      have hother : openWithOutcome w.directory kind policy (Environment.ofSettings s 1) = .error e' := hother.symm
      have hordinary' := openWithOutcome_failsOrdinarily _ _ _ _ e' hother
      simp only [hordinary', if_true]
      refine .inr ⟨_, w₃, rfl, ?_⟩
      simp only [establishOutcome, husual, halternate, hother]
    · rw [hrun', hdirectory] at hother
      have hother : openWithOutcome w.directory kind policy (Environment.ofSettings s 1) = .ok c.namespaceName :=
        hother.symm
      refine .inl ⟨c, w₃, rfl, .of_opened hquiet₂ (openWith_opened hrun') ?_⟩
      simp only [establishOutcome, hdirectory, husual, halternate, hother]
  · rw [hrun] at husual
    have husual : openWithOutcome w.directory kind policy (Environment.ofSettings s 0) = .ok c.namespaceName :=
      husual.symm
    refine .inl ⟨c, w₁, rfl, .of_opened hquiet (openWith_opened hrun) ?_⟩
    simp only [establishOutcome, husual]

/-- A connection that was opened without faults is an established one, to the same directory. -/
theorem established_of_establish {c : Connection} (hquiet : w.faults = [])
    (hopen : (establish kind policy s).perform w = (.ok c, w')) :
    Established kind policy s ⟨c, w'⟩ ∧ w'.directory = w.directory := by
  have hextends := establish_extends kind policy s w
  rw [hopen] at hextends
  refine ⟨?_, hextends.directory⟩
  rcases establish_run kind policy s hquiet with ⟨c', w'', hrun, hestablished⟩ | ⟨e, w'', hrun, -⟩
  · cases hopen.symm.trans hrun
    exact hestablished
  · cases hopen.symm.trans hrun

/-- Two connections for the same settings, opened at whatever time, are similar. -/
theorem Established.similar {ch ch' : Channel} (h : Established kind policy s ch) (h' : Established kind policy s ch')
    (hdirectory : ch.world.directory = ch'.world.directory) : ch.Similar ch' := by
  obtain ⟨attempt, houtcome, henvironment⟩ := h.outcome
  obtain ⟨attempt', houtcome', henvironment'⟩ := h'.outcome
  rw [hdirectory, houtcome', Except.ok.injEq, Prod.mk.injEq] at houtcome
  obtain ⟨hname, rfl⟩ := houtcome
  exact ⟨h.kind.trans h'.kind.symm, hname.symm, henvironment.trans henvironment'.symm, hdirectory,
    ⟨h.quiet, h'.quiet⟩, ⟨h.honest, h'.honest⟩⟩

/-! ## §5 Programs over some connection -/

variable {α : Type} {d : Directory} {P : α → Prop} {x : Exchange α} {a b : Except Failure α}

/-- How a program ends over a connection for some settings, opened at whatever time; if none can be opened, it ends
with that failure. -/
inductive Answers (d : Directory) (kind : ConnectionKind) (policy : Option TlsArguments) (s : Settings)
    (x : Exchange α) : Except Failure α → Prop
  | opened {ch : Channel} (h : Established kind policy s ch) (hdirectory : ch.world.directory = d) :
    Answers d kind policy s x (x.perform ch).1
  | unopened {e : Failure} (h : establishOutcome d kind policy s = .error e) : Answers d kind policy s x (.error e)

/-- A program has its answer over a connection that is opened now. -/
theorem Answers.of_establish {c : Connection} (hquiet : w.faults = [])
    (hopen : ((establish kind policy s).perform w).1 = .ok c) (x : Exchange α) :
    Answers w.directory kind policy s x (x.perform ⟨c, ((establish kind policy s).perform w).2⟩).1 :=
  have ⟨hestablished, hdirectory⟩ := established_of_establish hquiet (Prod.ext hopen rfl)
  .opened hestablished hdirectory

/-- **An orderly program has one answer**, whichever connection it runs over. -/
theorem Answers.unique (hx : Exchange.Orderly s P x) (ha : Answers d kind policy s x a)
    (hb : Answers d kind policy s x b) : a = b := by
  -- whether a connection can be opened is one outcome, so it cannot be opened once and not the other time
  cases ha with
  | opened h hd =>
    obtain ⟨attempt, houtcome, -⟩ := h.outcome
    cases hb with
    | opened h' hd' => exact (hx.similar (h.similar h' (hd.trans hd'.symm))).1
    | unopened h' =>
      rw [hd, h'] at houtcome
      cases houtcome
  | unopened h =>
    cases hb with
    | opened h' hd' =>
      obtain ⟨attempt, houtcome, -⟩ := h'.outcome
      rw [hd', h] at houtcome
      cases houtcome
    | unopened h' =>
      rw [h'] at h
      cases h
      rfl

/-- So the answer is what the program comes to over any such connection. -/
theorem Established.answers_iff {ch : Channel} (h : Established kind policy s ch) (hx : Exchange.Orderly s P x) :
    Answers ch.world.directory kind policy s x a ↔ (x.perform ch).1 = a :=
  ⟨fun ha => (ha.unique hx (.opened h rfl)).symm, fun ha => ha ▸ .opened h rfl⟩

theorem Answers.failsOrdinarily (hx : Exchange.Orderly s P x) (ha : Answers d kind policy s x a) :
    FailsOrdinarily a := by
  cases ha with
  | opened h hd => exact hx.failsOrdinarily h.quiet
  | unopened h => exact .error (establishOutcome_failsOrdinarily d kind policy s _ h)

end Connection

end DirectoryLogin

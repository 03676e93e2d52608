import DirectoryLogin.Proofs.Calm
import DirectoryLogin.Proofs.Session.Coupling
/-!
# Channels that Cannot Be Told Apart

Two channels are similar when they lead to the same directory, have environments that agree, and each is bound
honestly or not at all. Who was bound on them before, on which wires, and what was recorded, may differ.

Without faults, orderly programs cannot tell similar channels apart: a bind that is skipped on one of them would be
accepted on the other, for a name that is equal as far as the directory is concerned.

- `Exchange.perform_bind_outcome`: what binding comes to depends on the directory and the environment alone.
- `Exchange.Orderly.similar`: orderly programs end alike on similar channels, and leave them similar.
-/

namespace DirectoryLogin

variable {ch ch' : Channel}

/-! ## §1 The outcome of binding -/

/-- What binding comes to without faults: the name that the directory knows the identity by, or why it does not. -/
def Directory.bindOutcome (d : Directory) (e : Environment) : Except Failure Value := do
  let request ← BindRequest.ofEnvironment e
  (World.checkBind d request).mapError fun error => error.toFailure e.throwsReferrals

theorem Directory.bindOutcome_congr {e f : Environment} (h : e.Agrees f) (d : Directory) :
    d.bindOutcome e = d.bindOutcome f := by
  simp only [bindOutcome, BindRequest.ofEnvironment_eq_ofIdentity, h.identity_eq, h.throwsReferrals_eq]

theorem Directory.bindOutcome_of_identifies {d : Directory} {e : Environment} {v : Value}
    (h : d.Identifies e.identity v) : d.bindOutcome e = .ok v := by
  obtain ⟨r, hrequest, hcheck⟩ := h
  have hrequest : BindRequest.ofEnvironment e = .ok r := hrequest
  rw [bindOutcome, hrequest]
  change (World.checkBind d r).mapError _ = _
  rw [hcheck]
  rfl

/-- Whatever keeps an identity from being bound can be caught. -/
theorem Directory.bindOutcome_failsOrdinarily (d : Directory) (e : Environment) :
    FailsOrdinarily (d.bindOutcome e) := by
  refine (BindRequest.ofEnvironment_raises e).ordinarily.bind fun r => ?_
  rcases World.checkBind d r with error | v
  · exact .error rfl
  · exact .ok v

namespace Exchange

/-- A remembered identity is one that the directory knows. -/
theorem identifies_of_isBound (hhonest : ch.Honest) (hbound : ch.connection.isBound = true) :
    ∃ v, ch.world.directory.Identifies ch.connection.environment.identity v := by
  obtain ⟨i, hi, hsame⟩ := (Option.any_eq_true _ _).mp hbound
  obtain ⟨v, -, hidentifies⟩ := hhonest.identified i hi
  obtain ⟨v', hidentifies', -⟩ := hidentifies.of_matches (Identity.matches_of_same hsame).symm
  exact ⟨v', hidentifies'⟩

/-- **Without faults, binding depends on the directory and the environment alone**, although it may skip the
request. -/
theorem perform_bind_outcome (ch : Channel) (hquiet : ch.world.faults = []) (hhonest : ch.Honest) :
    (bind.perform ch).1 = (ch.world.directory.bindOutcome ch.connection.environment).map fun _ => () := by
  rw [bind_eq]
  by_cases hbound : ch.connection.isBound = true
  · -- nothing is sent, but whoever is remembered would be accepted again
    rw [if_pos hbound]
    obtain ⟨v, hidentifies⟩ := identifies_of_isBound hhonest hbound
    rw [Directory.bindOutcome_of_identifies hidentifies]
    rfl
  · rw [if_neg hbound]
    rcases hrequest : BindRequest.ofEnvironment ch.connection.environment with e | r
    · simp only [Directory.bindOutcome, hrequest]
      rfl
    · have houtcome : ch.world.directory.bindOutcome ch.connection.environment =
          (World.checkBind ch.world.directory r).mapError fun error =>
            error.toFailure ch.connection.environment.throwsReferrals := by
        rw [Directory.bindOutcome, hrequest]
        rfl
      simp only [houtcome, World.bindWire_eq, hquiet, Fault.strike, Fault.verdict]
      rcases World.checkBind ch.world.directory r with error | v
      · rfl
      · rfl

/-- After a bind the wire carries a name that is equal to the one the directory knows the identity by. -/
theorem wireUser_of_bind_ok (hhonest : ch.Honest) (h : bind.perform ch = (.ok (), ch')) :
    ∃ v v', ch.world.directory.bindOutcome ch.connection.environment = .ok v ∧ ch'.wireUser = some v' ∧
      v'.Equals v := by
  obtain ⟨i, hi, hmatches⟩ := matches_of_bind_ok h
  have hproceeds := bind_proceeds ch
  rw [h] at hproceeds
  obtain ⟨v', hwire, hidentifies⟩ := (hproceeds.honest hhonest).identified i hi
  have hdirectory : ch'.world.directory = ch.world.directory := hproceeds.world.directory
  rw [hdirectory] at hidentifies
  obtain ⟨v, hidentifies', hequals⟩ := hidentifies.of_matches hmatches
  exact ⟨v, v', Directory.bindOutcome_of_identifies hidentifies', hwire, hequals⟩

end Exchange

/-! ## §2 Similar channels -/

/-- Two channels that no program can tell apart. -/
structure Channel.Similar (ch ch' : Channel) : Prop where
  kind : ch.connection.kind = ch'.connection.kind
  namespaceName : ch.connection.namespaceName = ch'.connection.namespaceName
  environment : ch.connection.environment.Agrees ch'.connection.environment
  directory : ch.world.directory = ch'.world.directory
  quiet : ch.world.faults = [] ∧ ch'.world.faults = []
  honest : ch.Honest ∧ ch'.Honest

namespace Channel.Similar

variable {ch₁ ch₁' : Channel}

/-- Steps that leave the environments in agreement leave the channels similar. -/
theorem steady (h : ch.Similar ch') (hs : Steady ch ch₁) (hs' : Steady ch' ch₁')
    (henvironment : ch₁.connection.environment.Agrees ch₁'.connection.environment) : ch₁.Similar ch₁' where
  kind := by rw [hs.kind, hs'.kind, h.kind]
  namespaceName := by rw [hs.namespaceName, hs'.namespaceName, h.namespaceName]
  environment := henvironment
  directory := by rw [hs.world.directory, hs'.world.directory, h.directory]
  quiet := ⟨hs.world.quiet h.quiet.1, hs'.world.quiet h.quiet.2⟩
  honest := ⟨hs.honest h.honest.1, hs'.honest h.honest.2⟩

theorem proceeds (h : ch.Similar ch') (hp : Proceeds ch ch₁) (hp' : Proceeds ch' ch₁') : ch₁.Similar ch₁' := by
  refine h.steady hp.toSteady hp'.toSteady ?_
  rw [hp.environment, hp'.environment]
  exact h.environment

theorem withEnvironment (h : ch.Similar ch') {e e' : Environment} (he : e.Agrees e') :
    (ch.withEnvironment e).Similar (ch'.withEnvironment e') :=
  h.steady (steady_withEnvironment _ _) (steady_withEnvironment _ _) he

end Channel.Similar

namespace Exchange

variable {α : Type}

/-- Queries that are sent after a bind end alike, if they end alike whenever the directory gives the same answers. -/
theorem similar_of_bound {x : Exchange α}
    (hx : ∀ {ch ch' : Channel}, ch.Similar ch' →
      (∀ request, ch.world.directory.search (ch.wireUser.getD .null) request =
        ch'.world.directory.search (ch'.wireUser.getD .null) request) →
      (x.perform ch).1 = (x.perform ch').1)
    (h : ch.Similar ch') : ((bind >>= fun _ => x).perform ch).1 = ((bind >>= fun _ => x).perform ch').1 := by
  have hbind : (bind.perform ch).1 = (bind.perform ch').1 := by
    rw [perform_bind_outcome ch h.quiet.1 h.honest.1, perform_bind_outcome ch' h.quiet.2 h.honest.2, h.directory,
      Directory.bindOutcome_congr h.environment]
  have hsimilar := h.proceeds (bind_proceeds ch) (bind_proceeds ch')
  rw [Session.perform_bind, Session.perform_bind]
  rcases hrun : bind.perform ch with ⟨result, ch₁⟩
  rcases hrun' : bind.perform ch' with ⟨result', ch₁'⟩
  rw [hrun, hrun'] at hbind hsimilar
  dsimp only at hbind hsimilar
  subst hbind
  rcases result with e | _
  · rfl
  refine hx hsimilar fun request => ?_
  -- both wires carry a name equal to the one that the directory knows
  obtain ⟨v, u, houtcome, hu, hequals⟩ := wireUser_of_bind_ok h.honest.1 hrun
  obtain ⟨v', u', houtcome', hu', hequals'⟩ := wireUser_of_bind_ok h.honest.2 hrun'
  rw [h.directory, Directory.bindOutcome_congr h.environment, houtcome'] at houtcome
  cases houtcome
  rw [hu, hu', hsimilar.directory]
  simp only [Option.getD_some]
  rw [World.search_congr hequals, World.search_congr hequals']

theorem fullName_eq (h : ch.Similar ch') (name : String) :
    ch.connection.fullName name = ch'.connection.fullName name := by
  rw [Connection.fullName, Connection.fullName, h.namespaceName]

/-- Searches end alike on similar channels. -/
theorem search_similar {base filter : String} {controls : SearchControls} (h : ch.Similar ch') :
    ((search base filter controls).perform ch).1 = ((search base filter controls).perform ch').1 := by
  rw [search_eq]
  refine similar_of_bound (fun {ch ch'} h hanswers => ?_) h
  -- the request is the same, and so is what the directory answers to it
  have hrequest : searchRequest ch.connection base filter controls =
      searchRequest ch'.connection base filter controls := by
    simp only [searchRequest, fullName_eq h, h.environment.dereference_eq]
  have hanswer := hanswers (searchRequest ch'.connection base filter controls)
  simp only [Channel.wireUser] at hanswer
  rw [searchBound_eq, searchBound_eq, h.kind]
  rcases ch'.connection.kind with _ | _
  · simp only [hrequest, World.searchWire_eq, h.quiet.1, h.quiet.2, Fault.strike, Fault.verdict, hanswer,
      h.environment.throwsReferrals_eq]
  · simp only [h.directory]

/-- Reads end alike on similar channels. -/
theorem read_similar {dn : String} {names : Option (List String)} (h : ch.Similar ch') :
    ((read dn names).perform ch).1 = ((read dn names).perform ch').1 := by
  rw [read_eq]
  refine similar_of_bound (fun {ch ch'} h hanswers => ?_) h
  have hrequest : readRequest ch.connection dn names = readRequest ch'.connection dn names := by
    simp only [readRequest, fullName_eq h, h.environment.dereference_eq]
  have hanswer := hanswers (readRequest ch'.connection dn names)
  simp only [Channel.wireUser] at hanswer
  rw [readBound_eq, readBound_eq, h.kind]
  rcases ch'.connection.kind with _ | _
  · simp only [hrequest, World.searchWire_eq, h.quiet.1, h.quiet.2, Fault.strike, Fault.verdict, hanswer,
      h.environment.throwsReferrals_eq]
  · simp only [h.directory]

/-! ## §3 Orderly programs -/

variable {s : Settings} {P : α → Prop} {x : Exchange α}

/-- An orderly program on similar channels takes the same branches, since at every step it has had the same results. -/
theorem Orderly.coupled (hx : Orderly s P x) : Session.Coupled Channel.Similar (fun a b => a = b ∧ P a) x x := by
  induction hx with
  | pure ha => exact .pure ⟨rfl, ha⟩
  | throw => exact .throw _
  | bind _ _ ihx ihf =>
    refine .bind ihx ?_
    rintro a _ ⟨rfl, ha⟩
    exact ihf a ha
  | @rescue _ _ _ handler? _ _ _ ihx ihh =>
    refine .rescue ihx fun e => ?_
    rcases hhandler : handler? e with _ | y
    · exact .none
    · exact .some (ihh e y hhandler)
  | say =>
    intro ch ch' h
    exact ⟨.ok ⟨rfl, trivial⟩, h.proceeds (say_proceeds _ _ _ ch) (say_proceeds _ _ _ ch')⟩
  | relative _ ih =>
    have hconnection : Session.Coupled Channel.Similar (fun c c' => c.namespaceName = c'.namespaceName) connection
        connection := fun _ _ h => ⟨.ok h.namespaceName, h⟩
    refine .bind hconnection fun c c' hname => ?_
    rw [hname]
    exact ih _
  | sized _ ih =>
    refine .bind_get fun ch ch' h => ?_
    rw [h.directory]
    exact ih _
  | search =>
    intro ch ch' h
    refine ⟨.of_eq (fun results hresults => ⟨rfl, ?_⟩) (search_similar h),
      h.proceeds (search_proceeds _ _ _ ch) (search_proceeds _ _ _ ch')⟩
    exact (Orderly.search (s := s)).value (Prod.ext hresults rfl)
  | read =>
    intro ch ch' h
    exact ⟨.of_eq (fun _ _ => ⟨rfl, trivial⟩) (read_similar h),
      h.proceeds (read_proceeds _ _ ch) (read_proceeds _ _ ch')⟩
  | bracketed _ henter hleave _ ih =>
    -- the edits at both ends take environments that agree to environments that agree
    intro ch ch' h
    obtain ⟨hresult, hsimilar⟩ := ih _ _ (h.withEnvironment (henter _ _ h.environment))
    exact ⟨hresult, hsimilar.withEnvironment (hleave _ _ _ _ h.environment hsimilar.environment)⟩

/-- **Orderly programs cannot tell similar channels apart**: they end alike, and leave the channels similar. -/
theorem Orderly.similar (hx : Orderly s P x) (h : ch.Similar ch') :
    (x.perform ch).1 = (x.perform ch').1 ∧ (x.perform ch).2.Similar (x.perform ch').2 := by
  obtain ⟨hresult, hsimilar⟩ := hx.coupled ch ch' h
  exact ⟨hresult.eq_of fun _ _ hsame => hsame.1, hsimilar⟩

/-- Without faults, orderly programs fail in no way that cannot be caught. -/
theorem Orderly.failsOrdinarily (hx : Orderly s P x) (hquiet : ch.world.faults = []) :
    FailsOrdinarily (x.perform ch).1 :=
  (hx.completes ch (World.Calm.of_quiet hquiet)).1

end Exchange

end DirectoryLogin

import DirectoryLogin.Connection.Basic
import DirectoryLogin.Proofs.Wire
/-!
# The Requests of a Connection

What every operation of a connection comes to, as an equation, and what all of them have in common.

- `bind_eq`: binding, with all the ways in which it ends.
- `Channel.Steady`: what no step on a connection changes, and how the bound identity may change.
- `Channel.Proceeds`: the same for steps that leave the environment alone; every request is one.
-/

namespace DirectoryLogin

/-! ## §1 Steps on parts of a channel -/

/-- A failure as it leaves the connection: errors of the protocol have become failures of the request. -/
def Failure.interpreted (throwsReferrals : Bool) : Failure → Failure
  | .client e => e.toFailure throwsReferrals
  | e => e

namespace Exchange

variable {α β : Type}

@[simp] theorem perform_onWorld (x : Session World α) (ch : Channel) :
    (onWorld x).perform ch = ((x.perform ch.world).1, { ch with world := (x.perform ch.world).2 }) := rfl

@[simp] theorem perform_connection (ch : Channel) : connection.perform ch = (.ok ch.connection, ch) := rfl

@[simp] theorem perform_modifyConnection (f : Connection → Connection) (ch : Channel) :
    (modifyConnection f).perform ch = (.ok (), { ch with connection := f ch.connection }) := rfl

/-- Classifying renames the failure and does nothing else. -/
theorem perform_classified (x : Exchange α) (ch : Channel) :
    (classified x).perform ch =
      ((x.perform ch).1.mapError (Failure.interpreted (x.perform ch).2.connection.environment.throwsReferrals),
        (x.perform ch).2) := by
  rw [classified, Session.perform_rescue]
  rcases x.perform ch with ⟨e | a, ch'⟩
  · cases e <;> simp [Failure.interpreted, Except.mapError, Session.perform_bind]
  · rfl

/-! ## §2 Binding -/

/-- **Binding**: nothing is sent for the identity that is bound. Otherwise nobody is bound from the moment of the
request until it has been accepted. -/
theorem bind_eq (ch : Channel) :
    bind.perform ch =
      if ch.connection.isBound then (.ok (), ch) else
        match BindRequest.ofEnvironment ch.connection.environment with
        | .error e => (.error e, ch)
        | .ok request =>
          let answer := (World.bindWire ch.connection.wire request).perform ch.world
          match answer.1 with
          | .ok true =>
            (.ok (), ⟨{ ch.connection with bound := some ch.connection.environment.identity }, answer.2⟩)
          | .ok false => (.error (.directory .bindRefused), ⟨{ ch.connection with bound := none }, answer.2⟩)
          | .error e =>
            (.error (e.interpreted ch.connection.environment.throwsReferrals),
              ⟨{ ch.connection with bound := none }, answer.2⟩) := by
  rw [bind, Session.perform_bind_of_ok (perform_connection ch), Session.perform_ite]
  split
  · rfl
  rcases hrequest : BindRequest.ofEnvironment ch.connection.environment with e | request
  · rfl
  · simp only [Session.perform_bind, Session.perform_ofExcept, perform_modifyConnection, perform_classified,
      perform_onWorld]
    rcases (World.bindWire ch.connection.wire request).perform ch.world with ⟨e | _ | _, w⟩
    all_goals rfl

/-- The ways in which binding ends. -/
inductive BindRun (ch : Channel) : Except Failure Unit → Channel → Prop
  /-- The identity is bound already. -/
  | skipped (hbound : ch.connection.isBound = true) : BindRun ch (.ok ()) ch
  /-- There is no request for the identity. -/
  | unsupported (hbound : ch.connection.isBound = false) (e : Failure)
      (hrequest : BindRequest.ofEnvironment ch.connection.environment = .error e) : BindRun ch (.error e) ch
  | accepted (hbound : ch.connection.isBound = false) (r : BindRequest) (w : World)
      (hrequest : BindRequest.ofEnvironment ch.connection.environment = .ok r)
      (hanswer : (World.bindWire ch.connection.wire r).perform ch.world = (.ok true, w)) :
      BindRun ch (.ok ()) ⟨{ ch.connection with bound := some ch.connection.environment.identity }, w⟩
  /-- The request was refused, or failed. -/
  | refused (hbound : ch.connection.isBound = false) (r : BindRequest) (answer : Except Failure Bool) (w : World)
      (e : Failure) (hrequest : BindRequest.ofEnvironment ch.connection.environment = .ok r)
      (hanswer : (World.bindWire ch.connection.wire r).perform ch.world = (answer, w)) (hfalse : answer ≠ .ok true) :
      BindRun ch (.error e) ⟨{ ch.connection with bound := none }, w⟩

/-- Every run of binding ends in one of these ways. -/
theorem bind_run (ch : Channel) : BindRun ch (bind.perform ch).1 (bind.perform ch).2 := by
  rw [bind_eq]
  -- a bound connection sends nothing
  by_cases hbound : ch.connection.isBound = true
  · rw [if_pos hbound]
    exact .skipped hbound
  rw [if_neg hbound]
  replace hbound := Bool.eq_false_iff.mpr hbound
  rcases hrequest : BindRequest.ofEnvironment ch.connection.environment with e | r
  · -- otherwise the request is built, sent and answered
    exact .unsupported hbound e hrequest
  · simp only
    rcases hanswer : (World.bindWire ch.connection.wire r).perform ch.world with ⟨e | _ | _, w⟩
    · exact .refused hbound r _ w _ hrequest hanswer (by simp)
    · exact .refused hbound r _ w _ hrequest hanswer (by simp)
    · exact .accepted hbound r w hrequest hanswer

/-- After a bind that has gone through, the bound identity matches the one in the environment. -/
theorem matches_of_bind_ok {ch ch' : Channel} (h : bind.perform ch = (.ok (), ch')) :
    ∃ i, ch'.connection.bound = some i ∧ i.Matches ch.connection.environment.identity := by
  have hrun := bind_run ch
  rw [h] at hrun
  cases hrun with
  | skipped hbound =>
    obtain ⟨i, hi, hsame⟩ := (Option.any_eq_true _ _).mp hbound
    exact ⟨i, hi, (Identity.matches_of_same hsame).symm⟩
  | accepted => exact ⟨_, rfl, .refl _⟩

/-! ## §3 Searching and reading -/

/-- The request of a search and its results, once the bind before it has gone through. -/
def searchBound (base filter : String) (controls : SearchControls) : Exchange Results := do
  let c ← connection
  match c.kind with
  | .standard =>
    let request := searchRequest c base filter controls
    let response ← classified (onWorld (World.searchWire c.wire request))
    return Results.ofResponse request.base c.environment.throwsReferrals response
  | .prepared =>
    onWorld (modify (·.record c.wire (.preparedSearch base filter)))
    let w := (← get).world
    return ⟨(w.directory.prepared.lookup filter).getD [], none⟩

/-- The request of a read and its answer, once the bind before it has gone through. -/
def readBound (dn : String) (names : Option (List String)) : Exchange (Option Attributes) := do
  let c ← connection
  match c.kind with
  | .standard =>
    let response ← classified (onWorld (World.searchWire c.wire (readRequest c dn names)))
    match response.firstEntry? with
    | some attributes => return some (Attributes.decode attributes)
    | none => throw (.directory (.noEntry dn))
  | .prepared =>
    onWorld (modify (·.record c.wire (.preparedRead dn)))
    let w := (← get).world
    return w.directory.preparedReads.lookup dn

/-- A search is a bind and a request. -/
theorem search_eq (base filter : String) (controls : SearchControls) :
    search base filter controls = (bind >>= fun _ => searchBound base filter controls) := rfl

/-- A read is a bind and a request. -/
theorem read_eq (dn : String) (names : Option (List String)) :
    read dn names = (bind >>= fun _ => readBound dn names) := rfl

/-- What a search puts on the wire. -/
def searchQuery (c : Connection) (base filter : String) (controls : SearchControls) : Request :=
  match c.kind with
  | .standard => .search (searchRequest c base filter controls)
  | .prepared => .preparedSearch base filter

/-- What a read puts on the wire. -/
def readQuery (c : Connection) (dn : String) (names : Option (List String)) : Request :=
  match c.kind with
  | .standard => .search (readRequest c dn names)
  | .prepared => .preparedRead dn

/-- The first entry of an answer to a read. -/
def readAnswer (dn : String) (response : Response) : Except Failure (Option Attributes) :=
  match response.firstEntry? with
  | some attributes => .ok (some (Attributes.decode attributes))
  | none => .error (.directory (.noEntry dn))

/-- **Searching**, over a bound connection. -/
theorem searchBound_eq (base filter : String) (controls : SearchControls) (ch : Channel) :
    (searchBound base filter controls).perform ch =
      match ch.connection.kind with
      | .standard =>
        let request := searchRequest ch.connection base filter controls
        let answer := (World.searchWire ch.connection.wire request).perform ch.world
        let referrals := ch.connection.environment.throwsReferrals
        ((answer.1.mapError (Failure.interpreted referrals)).map (Results.ofResponse request.base referrals),
          { ch with world := answer.2 })
      | .prepared =>
        (.ok ⟨(ch.world.directory.prepared.lookup filter).getD [], none⟩,
          { ch with world := ch.world.record ch.connection.wire (.preparedSearch base filter) }) := by
  rw [searchBound, Session.perform_bind_of_ok (perform_connection ch)]
  rcases hkind : ch.connection.kind with _ | _
  · simp only [Session.perform_bind, perform_classified, perform_onWorld]
    rcases (World.searchWire ch.connection.wire (searchRequest ch.connection base filter controls)).perform
      ch.world with ⟨_ | _, _⟩ <;> rfl
  · rfl

/-- **Reading**, over a bound connection. -/
theorem readBound_eq (dn : String) (names : Option (List String)) (ch : Channel) :
    (readBound dn names).perform ch =
      match ch.connection.kind with
      | .standard =>
        let answer := (World.searchWire ch.connection.wire (readRequest ch.connection dn names)).perform ch.world
        ((answer.1.mapError (Failure.interpreted ch.connection.environment.throwsReferrals)).bind (readAnswer dn),
          { ch with world := answer.2 })
      | .prepared =>
        (.ok (ch.world.directory.preparedReads.lookup dn),
          { ch with world := ch.world.record ch.connection.wire (.preparedRead dn) }) := by
  rw [readBound, Session.perform_bind_of_ok (perform_connection ch)]
  rcases hkind : ch.connection.kind with _ | _
  · simp only [Session.perform_bind, perform_classified, perform_onWorld]
    rcases (World.searchWire ch.connection.wire (readRequest ch.connection dn names)).perform ch.world
      with ⟨_ | response, _⟩
    · rfl
    · simp only [Except.mapError, Except.bind, readAnswer]
      rcases response.firstEntry? <;> rfl
  · rfl

/-- A search over a bound connection puts one request on the wire and leaves the connection alone. -/
theorem searchBound_state (base filter : String) (controls : SearchControls) (ch : Channel) :
    ∃ faults, (ch.world.faults = [] → faults = []) ∧
      ((searchBound base filter controls).perform ch).2 =
        { ch with world :=
          { ch.world.record ch.connection.wire (searchQuery ch.connection base filter controls) with
            faults := faults } } := by
  rw [searchBound_eq]
  rcases hkind : ch.connection.kind with _ | _
  · refine ⟨(Fault.strike .search ch.world.faults).2, fun hquiet => by simp [hquiet, Fault.strike], ?_⟩
    simp only [World.searchWire_eq, searchQuery, hkind]
    rcases Fault.verdict (Fault.strike .search ch.world.faults).1 <;> rfl
  · exact ⟨ch.world.faults, id, by simp only [searchQuery, hkind]; rfl⟩

/-- A read over a bound connection puts one request on the wire and leaves the connection alone. -/
theorem readBound_state (dn : String) (names : Option (List String)) (ch : Channel) :
    ∃ faults, (ch.world.faults = [] → faults = []) ∧
      ((readBound dn names).perform ch).2 =
        { ch with world :=
          { ch.world.record ch.connection.wire (readQuery ch.connection dn names) with faults := faults } } := by
  rw [readBound_eq]
  rcases hkind : ch.connection.kind with _ | _
  · refine ⟨(Fault.strike .search ch.world.faults).2, fun hquiet => by simp [hquiet, Fault.strike], ?_⟩
    simp only [World.searchWire_eq, readQuery, hkind]
    rcases Fault.verdict (Fault.strike .search ch.world.faults).1 <;> rfl
  · exact ⟨ch.world.faults, id, by simp only [readQuery, hkind]; rfl⟩

end Exchange

/-! ## §4 Identities that a directory accepts -/

/-- The directory accepts the identity, and knows it by this name. -/
def Directory.Identifies (d : Directory) (i : Identity) (v : Value) : Prop :=
  ∃ r, BindRequest.ofIdentity i = .ok r ∧ World.checkBind d r = .ok v

/-- The directory accepts the identity. -/
def Directory.Accepts (d : Directory) (i : Identity) : Prop :=
  ∃ v, d.Identifies i v

/-- Matching identities are accepted together, by equal names. -/
theorem Directory.Identifies.of_matches {d : Directory} {i j : Identity} {v : Value} (h : d.Identifies i v)
    (hij : i.Matches j) : ∃ v', d.Identifies j v' ∧ v.Equals v' := by
  obtain ⟨r, hr, hv⟩ := h
  obtain ⟨q, hq, hrq⟩ := BindRequest.ofIdentity_congr hij hr
  obtain ⟨v', hv', heq⟩ := World.checkBind_congr hrq hv
  exact ⟨v', ⟨q, hq, hv'⟩, heq⟩

namespace Channel

/-- The name that is bound on the wire of the connection. -/
def wireUser (ch : Channel) : Option Value :=
  (ch.world.wire? ch.connection.wire).map (·.boundUser)

/-- The connection has a wire, and the directory as it is now accepts the bound identity by the name that is bound
on the wire. -/
structure Honest (ch : Channel) : Prop where
  hasWire : ch.wireUser.isSome
  identified : ∀ i, ch.connection.bound = some i → ∃ v, ch.wireUser = some v ∧ ch.world.directory.Identifies i v

/-- What every step on a connection has in common. The bound identity changes only to one that the directory
accepts. -/
structure Steady (ch ch' : Channel) : Prop where
  kind : ch'.connection.kind = ch.connection.kind
  wire : ch'.connection.wire = ch.connection.wire
  namespaceName : ch'.connection.namespaceName = ch.connection.namespaceName
  world : World.Follows ch.connection.wire ch.world ch'.world
  bound : ∀ i, ch'.connection.bound = some i → ch.connection.bound = some i ∨ ch.world.directory.Accepts i
  honest : ch.Honest → ch'.Honest

instance : IsPreorder Channel Steady where
  refl ch := ⟨rfl, rfl, rfl, refl_of _ ch.world, fun _ h => .inl h, id⟩
  trans _ _ _ h g :=
    { kind := g.kind.trans h.kind
      wire := g.wire.trans h.wire
      namespaceName := g.namespaceName.trans h.namespaceName
      world := trans_of _ h.world (h.wire ▸ g.world)
      bound := fun i hi => (g.bound i hi).elim (h.bound i) fun hacc => .inr (h.world.directory ▸ hacc)
      honest := g.honest ∘ h.honest }

/-- A step that binds nobody. -/
theorem Steady.of_wireUser {ch ch' : Channel} (hkind : ch'.connection.kind = ch.connection.kind)
    (hwire : ch'.connection.wire = ch.connection.wire)
    (hname : ch'.connection.namespaceName = ch.connection.namespaceName)
    (hworld : World.Follows ch.connection.wire ch.world ch'.world) (huser : ch'.wireUser = ch.wireUser)
    (hbound : ∀ i, ch'.connection.bound = some i → ch.connection.bound = some i) : Steady ch ch' where
  kind := hkind
  wire := hwire
  namespaceName := hname
  world := hworld
  bound i hi := .inl (hbound i hi)
  honest h := by
    constructor
    · -- the user of the wire has not changed
      rw [huser]
      exact h.hasWire
    · -- an identity that is kept now was kept before
      intro i hi
      rw [huser, hworld.directory]
      exact h.identified i (hbound i hi)

/-- The channel with another environment. -/
def withEnvironment (ch : Channel) (e : Environment) : Channel :=
  { ch with connection := { ch.connection with environment := e } }

theorem steady_withEnvironment (ch : Channel) (e : Environment) : Steady ch (ch.withEnvironment e) :=
  .of_wireUser rfl rfl rfl (refl_of _ _) rfl fun _ h => h

/-- What the requests of a connection have in common: they leave its environment alone. -/
structure Proceeds (ch ch' : Channel) : Prop extends Steady ch ch' where
  environment : ch'.connection.environment = ch.connection.environment

instance : IsPreorder Channel Proceeds where
  refl ch := ⟨refl_of Steady ch, rfl⟩
  trans _ _ _ h g := ⟨trans_of Steady h.toSteady g.toSteady, g.environment.trans h.environment⟩

end Channel

namespace Exchange

open Channel

/-! ## §5 What every request respects -/

/-- **Binding respects the common order**: it sends at most one request, and only an accepted identity is bound. -/
theorem bind_proceeds : bind.Respects Proceeds := by
  intro ch
  rcases hresult : bind.perform ch with ⟨result, ch'⟩
  have hrun := bind_run ch
  rw [hresult] at hrun
  cases hrun with
  | skipped => exact refl_of _ _
  | unsupported => exact refl_of _ _
  | accepted _ r w hrequest hanswer =>
    have hfollows := World.bindWire_respects ch.connection.wire r ch.world
    rw [hanswer] at hfollows
    obtain ⟨user, hcheck, rfl⟩ := World.of_bindWire_accepted hanswer
    have hid : ch.world.directory.Identifies ch.connection.environment.identity user := ⟨r, hrequest, hcheck⟩
    refine ⟨⟨rfl, rfl, rfl, hfollows, ?_, ?_⟩, rfl⟩
    -- what is remembered now is what was just accepted, and the wire carries its name
    · rintro i ⟨⟩
      exact .inr ⟨user, hid⟩
    · intro hhonest
      have hwire : wireUser
          ⟨{ ch.connection with bound := some ch.connection.environment.identity },
            (ch.world.sent .bind ch.connection.wire (.bind r)).updateWire ch.connection.wire
              fun wire => { wire with boundUser := user }⟩ = some user := by
        obtain ⟨v, hv⟩ := Option.isSome_iff_exists.mp hhonest.hasWire
        obtain ⟨wire, hwire, -⟩ := Option.map_eq_some_iff.mp hv
        have hsent : (ch.world.sent .bind ch.connection.wire (.bind r)).wire? ch.connection.wire = some wire := hwire
        simp only [wireUser, World.wire?_updateWire_self, hsent, Option.map_some]
      refine ⟨by rw [hwire]; rfl, ?_⟩
      rintro i ⟨⟩
      exact ⟨user, hwire, hfollows.directory ▸ hid⟩
  | refused _ r answer w e _ hanswer hfalse =>
    obtain rfl := World.of_bindWire_refused hanswer hfalse
    exact ⟨.of_wireUser rfl rfl rfl (.sent _ _ _) rfl (by rintro i ⟨⟩), rfl⟩

/-- What a query leaves behind. -/
theorem proceeds_record (ch : Channel) (request : Request) {faults : List Fault}
    (hquiet : ch.world.faults = [] → faults = []) :
    Proceeds ch { ch with world := { ch.world.record ch.connection.wire request with faults := faults } } :=
  ⟨.of_wireUser rfl rfl rfl ⟨rfl, rfl, fun _ _ => rfl, hquiet, [request], rfl⟩ rfl fun _ h => h, rfl⟩

/-- The request of a search respects the common order. -/
theorem searchBound_proceeds (base filter : String) (controls : SearchControls) :
    (searchBound base filter controls).Respects Proceeds := by
  intro ch
  obtain ⟨faults, hquiet, hstate⟩ := searchBound_state base filter controls ch
  rw [hstate]
  exact proceeds_record ch _ hquiet

/-- The request of a read respects the common order. -/
theorem readBound_proceeds (dn : String) (names : Option (List String)) :
    (readBound dn names).Respects Proceeds := by
  intro ch
  obtain ⟨faults, hquiet, hstate⟩ := readBound_state dn names ch
  rw [hstate]
  exact proceeds_record ch _ hquiet

/-- Searching respects the common order. -/
theorem search_proceeds (base filter : String) (controls : SearchControls) :
    (search base filter controls).Respects Proceeds :=
  .bind bind_proceeds fun _ => searchBound_proceeds base filter controls

/-- Reading respects the common order. -/
theorem read_proceeds (dn : String) (names : Option (List String)) : (read dn names).Respects Proceeds :=
  .bind bind_proceeds fun _ => readBound_proceeds dn names

/-- A message concerns no connection. -/
theorem say_proceeds (level : Level) (source : Source) (text : String) :
    (onWorld (World.say level source text)).Respects Proceeds :=
  fun ch => ⟨.of_wireUser rfl rfl rfl (World.say_respects _ level source text ch.world) rfl fun _ h => h, rfl⟩

/-- Asking for encryption sends one request, and binds nobody. -/
theorem startTls_state (ch : Channel) :
    ∃ started, (startTls.perform ch).2 =
      ⟨{ ch.connection with tlsStarted := started }, ch.world.sent .startTls ch.connection.wire .startTls⟩ := by
  simp only [startTls, Session.perform_bind, perform_connection, perform_classified, perform_onWorld,
    World.startTlsWire, World.send_eq]
  rcases Fault.verdict (Fault.strike .startTls ch.world.faults).1 with e | _ | _
  · exact ⟨ch.connection.tlsStarted, rfl⟩
  · exact ⟨ch.connection.tlsStarted, rfl⟩
  · refine ⟨true, ?_⟩
    simp only [Except.mapError, Bool.not_true, Bool.false_eq_true, if_false, perform_modifyConnection,
      Session.perform_bind, Session.perform_get, World.sent_directory]
    rcases ch.world.directory.tlsVersion <;> rfl

/-- The upgrade respects the common order. -/
theorem startTls_proceeds : startTls.Respects Proceeds := by
  intro ch
  obtain ⟨started, hstate⟩ := startTls_state ch
  rw [hstate]
  exact ⟨.of_wireUser rfl rfl rfl (.sent _ _ _) rfl fun _ h => h, rfl⟩

/-- **Closing**: nobody is bound afterwards, whatever becomes of the request. -/
theorem close_eq (ch : Channel) :
    close.perform ch =
      let answer := (World.unbindWire ch.connection.wire).perform ch.world
      (answer.1.mapError (Failure.interpreted ch.connection.environment.throwsReferrals),
        ⟨{ ch.connection with bound := none, tlsStarted := false }, answer.2⟩) := by
  rw [close, Session.perform_bind_of_ok (perform_connection ch), Session.perform_ensure, perform_classified]
  rfl

/-- The end respects the common order. -/
theorem close_proceeds : close.Respects Proceeds := by
  intro ch
  rw [close_eq, World.unbindWire_eq]
  refine ⟨.of_wireUser rfl rfl rfl (trans_of (World.Follows _) (.updateWire _ _) (.sent _ _ _)) ?_ (by rintro i ⟨⟩),
    rfl⟩
  change ((ch.world.updateWire _ _).wire? _).map _ = _
  rw [World.wire?_updateWire_self, Option.map_map]
  rfl

end Exchange

end DirectoryLogin

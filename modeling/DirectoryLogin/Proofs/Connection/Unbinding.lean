import DirectoryLogin.Proofs.Opening
import DirectoryLogin.Proofs.Orderly
/-!
# Requests that End a Connection

A connection is ended by one kind of request. Nothing that is done over a connection sends it but closing, and none has
been sent on the wire of a connection that has just been opened.

- `World.unbinds`: how often the connection on a wire has been ended.
- `Channel.Engages`: what is done over a connection short of closing it.
- `Exchange.Orderly.engages`: every orderly program is of that kind.
- `Connection.establish_engages`: a connection that was opened has a wire of its own, on which nothing was ended.
-/

namespace DirectoryLogin

/-- The request ends a connection. -/
def Request.isUnbind : Request → Bool
  | .unbind => true
  | _ => false

namespace World

/-! ## §1 Worlds that move on -/

/-- How often the connection on a wire has been ended. -/
def unbinds (w : World) (n : Nat) : Nat :=
  w.events.countP fun e => e.wire == n && e.request.isUnbind

/-- The world has moved on by requests on wire `n` that end nothing. -/
structure Engages (n : Nat) (w w' : World) : Prop where
  length : w'.wires.length = w.wires.length
  events : ∃ requests : List Request, (∀ r ∈ requests, r.isUnbind = false) ∧
    w'.events = w.events ++ requests.map (Event.mk n)

instance (n : Nat) : IsPreorder World (Engages n) where
  refl w := ⟨rfl, [], List.forall_mem_nil _, (List.append_nil _).symm⟩
  trans _ _ _ h g := by
    obtain ⟨requests, hends, hevents⟩ := h.events
    obtain ⟨requests', hends', hevents'⟩ := g.events
    refine ⟨g.length.trans h.length, requests ++ requests', fun r hr => ?_, ?_⟩
    · exact (List.mem_append.mp hr).elim (hends r) (hends' r)
    · rw [hevents', hevents, List.append_assoc, List.map_append]

/-- The world has moved on by requests on wires that were not there. -/
structure Grows (w w' : World) : Prop where
  length : w.wires.length ≤ w'.wires.length
  events : ∃ added : List Event, (∀ e ∈ added, w.wires.length < e.wire ∧ e.wire ≤ w'.wires.length) ∧
    w'.events = w.events ++ added

instance : IsPreorder World Grows where
  refl w := ⟨Nat.le_refl _, [], List.forall_mem_nil _, (List.append_nil _).symm⟩
  trans _ _ _ h g := by
    obtain ⟨added, hnew, hevents⟩ := h.events
    obtain ⟨added', hnew', hevents'⟩ := g.events
    refine ⟨Nat.le_trans h.length g.length, added ++ added', fun e he => ?_, ?_⟩
    · -- what is new in either part is new in the whole, and behind the wires of the beginning
      have hfirst := h.length
      have hsecond := g.length
      rcases List.mem_append.mp he with hmem | hmem
      · obtain ⟨hlow, hhigh⟩ := hnew e hmem
        omega
      · obtain ⟨hlow, hhigh⟩ := hnew' e hmem
        omega
    · rw [hevents', hevents, List.append_assoc]

theorem length_withNewWire (w : World) : w.withNewWire.wires.length = w.wires.length + 1 := by
  simp [withNewWire]

theorem Follows.grows {w w' : World} (h : Follows (w.wires.length + 1) w.withNewWire w') : Grows w w' := by
  obtain ⟨requests, hevents⟩ := h.events
  have hlength : w'.wires.length = w.wires.length + 1 := h.length.trans w.length_withNewWire
  refine ⟨by omega, requests.map (Event.mk (w.wires.length + 1)), fun e he => ?_, hevents⟩
  obtain ⟨r, -, rfl⟩ := List.mem_map.mp he
  constructor
  · exact Nat.lt_succ_self _
  · exact Nat.le_of_eq hlength.symm

theorem say_grows (level : Level) (source : Source) (text : String) : (say level source text).Respects Grows :=
  .modify fun _ => ⟨Nat.le_refl _, [], List.forall_mem_nil _, (List.append_nil _).symm⟩

/-! ### Counting -/

/-- Nothing that only engages a connection is counted. -/
theorem Engages.unbinds {n : Nat} {w w' : World} (h : Engages n w w') (k : Nat) : w'.unbinds k = w.unbinds k := by
  obtain ⟨requests, hends, hevents⟩ := h.events
  -- the new events are on the wire, but none of them is an end
  have hnone : (requests.map (Event.mk n)).countP (fun e => e.wire == k && e.request.isUnbind) = 0 := by
    rw [List.countP_eq_zero]
    intro e he
    obtain ⟨r, hr, rfl⟩ := List.mem_map.mp he
    simp [hends r hr]
  rw [World.unbinds, hevents, List.countP_append, hnone]
  rfl

/-- What happens on new wires does not count for an old one. -/
theorem Grows.unbinds {w w' : World} (h : Grows w w') {k : Nat} (hk : k ≤ w.wires.length) :
    w'.unbinds k = w.unbinds k := by
  obtain ⟨added, hnew, hevents⟩ := h.events
  -- the new events are all on later wires
  have hnone : added.countP (fun e => e.wire == k && e.request.isUnbind) = 0 := by
    rw [List.countP_eq_zero]
    intro e he
    have hne : (e.wire == k) = false := by
      have hlow := (hnew e he).1
      exact beq_eq_false_iff_ne.mpr (by omega)
    simp [hne]
  rw [World.unbinds, hevents, List.countP_append, hnone]
  rfl

/-- Every request on record was sent on a wire that is there. -/
def Recorded (w : World) : Prop :=
  ∀ e ∈ w.events, e.wire ≤ w.wires.length

theorem Recorded.engages {n : Nat} {w w' : World} (hw : w.Recorded) (h : Engages n w w') (hn : n ≤ w.wires.length) :
    w'.Recorded := by
  obtain ⟨requests, -, hevents⟩ := h.events
  intro e he
  rw [hevents] at he
  rw [h.length]
  rcases List.mem_append.mp he with hold | hnew
  · exact hw e hold
  · obtain ⟨r, -, rfl⟩ := List.mem_map.mp hnew
    exact hn

theorem Recorded.grows {w w' : World} (hw : w.Recorded) (h : Grows w w') : w'.Recorded := by
  obtain ⟨added, hnew, hevents⟩ := h.events
  intro e he
  rw [hevents] at he
  rcases List.mem_append.mp he with hold | hadded
  · exact Nat.le_trans (hw e hold) h.length
  · exact (hnew e hadded).2

/-- Nothing is on record for a wire that is not there yet. -/
theorem Recorded.unbinds_eq_zero {w : World} (hw : w.Recorded) {k : Nat} (hk : w.wires.length < k) :
    w.unbinds k = 0 := by
  rw [World.unbinds, List.countP_eq_zero]
  intro e he
  have hne : (e.wire == k) = false := by
    have hold := hw e he
    exact beq_eq_false_iff_ne.mpr (by omega)
  simp [hne]

/-! ### Requests -/

namespace Engages

variable {n : Nat}

theorem updateWire (w : World) (f : Wire → Wire) : Engages n w (w.updateWire n f) :=
  ⟨length_updateWire w n f, [], List.forall_mem_nil _, by rw [updateWire_events, List.map_nil, List.append_nil]⟩

theorem write (w : World) (m : Message) : Engages n w (w.write m) :=
  ⟨rfl, [], List.forall_mem_nil _, (List.append_nil _).symm⟩

theorem record (w : World) {request : Request} (h : request.isUnbind = false) (faults : List Fault) :
    Engages n w { w.record n request with faults := faults } :=
  ⟨rfl, [request], fun r hr => by rwa [List.mem_singleton.mp hr], rfl⟩

end Engages

theorem send_engages (call : Call) (n : Nat) {request : Request} (h : request.isUnbind = false) :
    (send call n request).Respects (Engages n) := by
  intro w
  rw [send_eq]
  exact .record w h _

theorem openWire_engages (n : Nat) (request : OpenRequest) : (openWire n request).Respects (Engages n) := by
  refine .bind (send_engages _ _ rfl) fun _ => .bind .get fun w => ?_
  split
  · exact .bind (.throw _) fun _ => .modify fun w => .updateWire w _
  · exact .modify fun w => .updateWire w _

theorem bindWire_engages (n : Nat) (request : BindRequest) : (bindWire n request).Respects (Engages n) := by
  refine .bind (send_engages _ _ rfl) fun passed => ?_
  split
  · refine .bind_get fun w => ?_
    split
    · exact .updateWire w _
    · exact refl_of _ w
  · exact .pure _

end World

/-! ## §2 Over a connection -/

/-- What is done over a connection that keeps its wire, and is not ended. -/
structure Channel.Engages (ch ch' : Channel) : Prop where
  wire : ch'.connection.wire = ch.connection.wire
  world : World.Engages ch.connection.wire ch.world ch'.world

instance : IsPreorder Channel Channel.Engages where
  refl ch := ⟨rfl, refl_of _ ch.world⟩
  trans _ _ _ h g := ⟨g.wire.trans h.wire, trans_of _ h.world (h.wire ▸ g.world)⟩

namespace Exchange

open Channel

variable {α : Type} {s : Settings} {P : α → Prop} {x : Exchange α}

theorem bind_engages : bind.Respects Engages := by
  intro ch
  have hwire (r : BindRequest) := World.bindWire_engages ch.connection.wire r ch.world
  rcases hresult : bind.perform ch with ⟨result, ch'⟩
  have hrun := bind_run ch
  rw [hresult] at hrun
  cases hrun with
  | skipped => exact refl_of _ _
  | unsupported => exact refl_of _ _
  | accepted _ r w _ hanswer =>
    -- the wire is the same, and only the bind itself was sent over it
    refine ⟨rfl, ?_⟩
    have hworld := hwire r
    rwa [hanswer] at hworld
  | refused _ r answer w e _ hanswer =>
    refine ⟨rfl, ?_⟩
    have hworld := hwire r
    rwa [hanswer] at hworld

theorem searchBound_engages (base filter : String) (controls : SearchControls) :
    (searchBound base filter controls).Respects Engages := by
  intro ch
  obtain ⟨faults, -, hstate⟩ := searchBound_state base filter controls ch
  -- a search is a query of one of two kinds
  have hquery : (searchQuery ch.connection base filter controls).isUnbind = false := by
    unfold searchQuery
    split <;> rfl
  rw [hstate]
  exact ⟨rfl, .record ch.world hquery faults⟩

theorem readBound_engages (dn : String) (names : Option (List String)) : (readBound dn names).Respects Engages := by
  intro ch
  obtain ⟨faults, -, hstate⟩ := readBound_state dn names ch
  have hquery : (readQuery ch.connection dn names).isUnbind = false := by
    unfold readQuery
    split <;> rfl
  rw [hstate]
  exact ⟨rfl, .record ch.world hquery faults⟩

theorem startTls_engages : startTls.Respects Engages := by
  intro ch
  obtain ⟨started, hstate⟩ := startTls_state ch
  rw [hstate]
  exact ⟨rfl, .record ch.world rfl _⟩

/-- **Orderly programs** do not end their connection. -/
theorem Orderly.engages (hx : Orderly s P x) : x.Respects Engages := by
  -- over the ways of putting programs together; only a search and a read send anything
  induction hx with
  | pure => exact .pure _
  | throw => exact .throw _
  | bind hx _ ihx ihf => exact .bind_of_value ihx fun _ a ch' h => ihf a (hx.value h) ch'
  | rescue _ _ _ ihx ihh => exact .rescue ihx ihh
  | say => exact fun ch => ⟨rfl, .write ch.world _⟩
  | relative _ ih => exact fun ch => ih _ ch
  | sized _ ih => exact .bind_get fun ch => ih _ ch
  | search => exact .bind bind_engages fun _ => searchBound_engages _ _ _
  | read => exact .bind bind_engages fun _ => readBound_engages _ _
  | @bracketed _ _ enter leave x _ _ _ _ ih =>
    -- the brackets edit the environment, and nothing else
    intro ch
    have hrun := ih (ch.withEnvironment (enter ch.connection.environment))
    exact ⟨hrun.wire, hrun.world⟩

end Exchange

/-! ## §3 New connections -/

namespace Connection

variable {kind : ConnectionKind} {policy : Option TlsArguments} {e : Environment} {w w' : World} {c : Connection}

/-- The connection was opened on the next wire, and nothing has been ended on it. -/
def Engaged (w : World) (c : Connection) (w' : World) : Prop :=
  c.wire = w.wires.length + 1 ∧ World.Engages (w.wires.length + 1) w.withNewWire w'

theorem Engaged.andThen {c' : Connection} {w'' : World} (h : Engaged w c w')
    (hengages : Channel.Engages ⟨c, w'⟩ ⟨c', w''⟩) : Engaged w c' w'' := by
  obtain ⟨hwire, hworld⟩ := h
  have hstep : World.Engages c.wire w' w'' := hengages.world
  rw [hwire] at hstep
  exact ⟨hengages.wire.trans hwire, trans_of (World.Engages _) hworld hstep⟩

theorem dial_engages (c : Connection) (request : OpenRequest) : (dial c request).Respects (World.Engages c.wire) := by
  refine .rescue (World.openWire_engages _ _) fun e y hy => ?_
  split at hy
  · cases hy
    exact .throw _
  · cases hy

theorem openAs_engages {bindNow : Bool} {tls : Option TlsSettings}
    (h : (openAs kind e bindNow tls).perform w = (.ok c, w')) : Engaged w c w' := by
  have hbinds {c₀ c₁ : Connection} {w₁ w₂ : World} (hbind : Exchange.bind.perform ⟨c₀, w₁⟩ = (.ok (), ⟨c₁, w₂⟩)) :
      Channel.Engages ⟨c₀, w₁⟩ ⟨c₁, w₂⟩ := Exchange.bind_engages.of_perform hbind
  cases kind with
  | standard =>
    rw [openAs, openStandard_eq] at h
    obtain ⟨d, w₀, hdestination, h⟩ := Session.of_perform_bind_ok h
    obtain rfl : w = w₀ := congrArg Prod.snd hdestination
    rw [Session.perform_bind_of_ok (World.perform_newWire w)] at h
    obtain ⟨_, w₁, hdial, h⟩ := Session.of_perform_bind_ok h
    -- the wire is opened and perhaps bound; neither ends it
    have hdialled : Engaged w { wire := w.wires.length + 1, environment := e, namespaceName := d.2 } w₁ :=
      ⟨rfl, (dial_engages _ _).of_perform hdial⟩
    split at h
    · exact hdialled.andThen (hbinds (of_bindNew_ok h))
    · cases h
      exact hdialled
  | prepared =>
    rw [openAs, openPrepared, Session.perform_bind_of_ok (World.perform_newWire w)] at h
    have hnew : Engaged w { kind := .prepared, wire := w.wires.length + 1, environment := e } w.withNewWire :=
      ⟨rfl, refl_of _ _⟩
    split at h
    · obtain ⟨⟨_, c₁⟩, w₁, hrun, h⟩ := Session.of_perform_bind_ok h
      cases h
      exact hnew.andThen (hbinds (of_run_ok hrun))
    · cases h
      exact hnew

/-- An upgrade that goes through ends nothing. -/
theorem openWith_engages (h : (openWith kind policy e).perform w = (.ok c, w')) : Engaged w c w' := by
  rcases policy with _ | policy
  · exact openAs_engages h
  obtain ⟨tls, w₀, hbuild, h⟩ := Session.of_perform_bind_ok h
  obtain rfl : w = w₀ := congrArg Prod.snd hbuild
  obtain ⟨c₀, w₁, hopen, h⟩ := Session.of_perform_bind_ok h
  obtain ⟨⟨_, c₁⟩, w₂, hupgrade, h⟩ := Session.of_perform_bind_ok h
  cases h
  have hstarted := Session.of_perform_onFailure_ok (of_run_ok hupgrade)
  obtain ⟨hwire, hworld⟩ := (openAs_engages hopen).andThen (Exchange.startTls_engages.of_perform hstarted)
  exact ⟨hwire, hworld⟩

theorem openWith_grows (kind : ConnectionKind) (policy : Option TlsArguments) (e : Environment) :
    (openWith kind policy e).Respects World.Grows :=
  openWith_respects World.Follows.grows kind policy e

/-- **A connection that was opened** has a wire of its own, on which nothing has been ended. What was tried before it
has touched no wire that was there. -/
theorem establish_engages {s : Settings} (h : (establish kind policy s).perform w = (.ok c, w')) :
    ∃ w₀, World.Grows w w₀ ∧ Engaged w₀ c w' := by
  obtain ⟨_, w₀, -, hgrows, hopen⟩ := establish_ok (openWith_grows kind policy) World.say_grows h
  exact ⟨w₀, hgrows, openWith_engages hopen⟩

end Connection

end DirectoryLogin

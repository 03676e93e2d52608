import DirectoryLogin.Proofs.Connection.Outcome
import DirectoryLogin.Proofs.Manager.Keeping
/-!
# The Manager without Faults

Without faults nothing goes wrong in the manager that the directory does not decide. Every open connection is one
that opening for the settings of its handle yields, the mutex is held exactly as long as the shared handle is out,
and whatever is handed out was made for the active snapshot.

- `Manager.Regular`: the invariant, which every step keeps.
- `Regular.ofServes`, `Regular.ofEstablished`: programs on a connection, and connections that are opened.
-/

namespace DirectoryLogin

/-! ## §1 Connections that have been in use -/

namespace Connection.Established

variable {kind : ConnectionKind} {policy : Option TlsArguments} {s : Settings} {c : Connection} {w w' : World}

/-- What happens on other wires does not matter. -/
theorem moved (h : Established kind policy s ⟨c, w⟩) (hdirectory : w'.directory = w.directory)
    (hquiet : w'.faults = []) (hwire : w'.wire? c.wire = w.wire? c.wire) : Established kind policy s ⟨c, w'⟩ where
  outcome := by
    obtain ⟨attempt, houtcome, henvironment⟩ := h.outcome
    exact ⟨attempt, hdirectory ▸ houtcome, henvironment⟩
  kind := h.kind
  quiet := hquiet
  honest := by
    have huser : Channel.wireUser ⟨c, w'⟩ = Channel.wireUser ⟨c, w⟩ := congrArg (Option.map Wire.boundUser) hwire
    refine ⟨huser ▸ h.honest.hasWire, fun i hi => ?_⟩
    obtain ⟨v, hv, hidentifies⟩ := h.honest.identified i hi
    exact ⟨v, huser.trans hv, hdirectory ▸ hidentifies⟩

/-- The wire was there before any later one. -/
theorem wire_le (h : Established kind policy s ⟨c, w⟩) : c.wire ≤ w.wires.length := by
  have hwire := h.honest.hasWire
  rw [Channel.wireUser, Option.isSome_map, World.isSome_wire?_iff] at hwire
  exact hwire.2

/-- **Orderly programs leave a connection as it was opened**, but for who is bound. -/
theorem serves {ch ch' : Channel} (h : Established kind policy s ch) (hserves : Channel.Serves s ch ch') :
    Established kind policy s ch' where
  outcome := by
    obtain ⟨attempt, houtcome, henvironment⟩ := h.outcome
    refine ⟨attempt, ?_, ?_⟩
    · rw [hserves.world.directory, hserves.namespaceName]
      exact houtcome
    · -- the connection is that of the service, so its environment comes back to it
      have hservice : ch.connection.environment.HasService s := by
        constructor
        · rw [henvironment, Environment.get?_ofSettings_principal]
        · rw [henvironment, Environment.get?_ofSettings_credentials]
      exact (hserves.environment.agrees hservice).trans henvironment
  kind := hserves.kind.trans h.kind
  quiet := hserves.world.quiet h.quiet
  honest := hserves.honest h.honest

end Connection.Established

/-! ## §2 The invariant -/

/-- The templates of a handle are those of its settings, and its connection is one that opening for them yields. -/
structure Handle.Regular (registry : Registry) (w : World) (h : Handle) : Prop where
  templates : Templates.compile h.settings = .ok h.templates
  connection : ∀ c, h.connection = some c → ∃ chosen, registry.collaborators h.settings = .ok chosen ∧
    Connection.Established chosen.connector chosen.tls h.settings ⟨c, w⟩

theorem Handle.Regular.moved {registry : Registry} {h : Handle} {w w' : World} (hh : h.Regular registry w)
    (hdirectory : w'.directory = w.directory) (hquiet : w'.faults = [])
    (hwire : ∀ c, h.connection = some c → w'.wire? c.wire = w.wire? c.wire) : h.Regular registry w' where
  templates := hh.templates
  connection c hc := by
    obtain ⟨chosen, hchosen, hestablished⟩ := hh.connection c hc
    exact ⟨chosen, hchosen, hestablished.moved hdirectory hquiet (hwire c hc)⟩

namespace Manager

/-- A manager in whose life nothing has gone wrong. -/
structure Regular (m : Manager) : Prop where
  quiet : m.world.faults = []
  chosen : ∃ notes, m.registry.collaborators m.active.settings = .ok ⟨m.connector, m.tls, notes⟩
  compiled : ∃ templates, Templates.compile m.active.settings = .ok templates
  handle : ∀ id h, m.handle? id = some h → h.Regular m.registry m.world
  wires : ∀ id id' c c', m.connection? id = some c → m.connection? id' = some c' → c.wire = c'.wire → id = id'
  idle : ∀ pool, m.pool = some pool → ∀ id ∈ pool.items, m.isCurrent id = true ∧ m.isPooled id = true
  kept : ∀ id, m.shared = some id ∨ m.ready = some id → ∃ h, m.handle? id = some h ∧ h.pooled = false

/-- The handle was made for the active snapshot, and for a pool or not. -/
def Serving (m : Manager) (id : HandleId) (pooled : Bool) : Prop :=
  ∃ h, m.handle? id = some h ∧ h.snapshot = m.active ∧ h.pooled = pooled

variable {m m' : Manager} {id : HandleId}

theorem Serving.stays {pooled : Bool} (h : m.Serving id pooled) (hstays : Stays m m') : m'.Serving id pooled := by
  obtain ⟨handle, hid, hsnapshot, hpooled⟩ := h
  obtain ⟨handle', hid', hkeeps⟩ := hstays.old id handle hid
  refine ⟨handle', hid', ?_, hkeeps.pooled.trans hpooled⟩
  rw [hkeeps.snapshot, hsnapshot, hstays.active]

theorem Serving.isCurrent {pooled : Bool} (h : m.Serving id pooled) : m.isCurrent id = true := by
  obtain ⟨handle, hid, hsnapshot, -⟩ := h
  rw [Manager.isCurrent, hid, Option.any_some, hsnapshot]
  exact beq_self_eq_true _

theorem Serving.isPooled {pooled : Bool} (h : m.Serving id pooled) : m.isPooled id = pooled := by
  obtain ⟨handle, hid, -, hpooled⟩ := h
  rw [Manager.isPooled, hid, Option.any_some, hpooled]

theorem serving_iff {pooled : Bool} (hid : m.isCurrent id = true) (hpooled : m.isPooled id = pooled) :
    m.Serving id pooled := by
  obtain ⟨handle, hhandle, hsnapshot⟩ := (Option.any_eq_true _ _).mp hid
  rw [Manager.isPooled, hhandle, Option.any_some] at hpooled
  exact ⟨handle, hhandle, eq_of_beq hsnapshot, hpooled⟩

theorem handle?_setConnection (m : Manager) (id other : HandleId) (c? : Option Connection) :
    (m.setConnection id c?).handle? other =
      if id = other then (m.handle? other).map fun h => { h with connection := c? } else m.handle? other :=
  handle?_updateHandle m id other _

/-- A connection is the one that was set, or it was there before on another handle. -/
theorem of_connection?_setConnection {other : HandleId} {c? : Option Connection} {d : Connection}
    (h : (m.setConnection id c?).connection? other = some d) :
    id = other ∧ c? = some d ∨ id ≠ other ∧ m.connection? other = some d := by
  rw [connection?, handle?_setConnection] at h
  by_cases heq : id = other
  · -- the handle that was set must be there
    left
    rw [if_pos heq] at h
    rcases hother : m.handle? other with _ | handle
    · rw [hother] at h
      cases h
    · rw [hother] at h
      exact ⟨heq, h⟩
  · -- any other handle has the connection it had
    right
    rw [if_neg heq] at h
    exact ⟨heq, h⟩

theorem Serving.setConnection {pooled : Bool} (h : m.Serving id pooled) (other : HandleId) (c? : Option Connection) :
    (m.setConnection other c?).Serving id pooled := by
  obtain ⟨handle, hid, hsnapshot, hpooled⟩ := h
  have hsame := handle?_setConnection m other id c?
  rw [hid] at hsame
  by_cases heq : other = id
  · rw [if_pos heq] at hsame
    exact ⟨_, hsame, hsnapshot, hpooled⟩
  · rw [if_neg heq] at hsame
    exact ⟨_, hsame, hsnapshot, hpooled⟩

theorem connection?_of_handle {h : Handle} (hid : m.handle? id = some h) : m.connection? id = h.connection := by
  rw [connection?, hid, Option.bind_some]

/-! ## §3 Changes that keep it -/

/-- The world changes, but for the wires that are in use. -/
theorem Regular.ofWorld (hm : m.Regular) {w : World} (h : World.Extends m.world w) :
    Regular { m with world := w } where
  quiet := h.quiet hm.quiet
  chosen := hm.chosen
  compiled := hm.compiled
  handle id handle hid := by
    have hhandle := hm.handle id handle hid
    refine hhandle.moved h.directory (h.quiet hm.quiet) fun c hc => h.wires _ ?_
    obtain ⟨_, -, hestablished⟩ := hhandle.connection c hc
    exact hestablished.wire_le
  wires := hm.wires
  idle := hm.idle
  kept := hm.kept

/-- One handle gets another connection, or none, and the world changes on its wire. -/
theorem Regular.ofConnection (hm : m.Regular) {h : Handle} (hid : m.handle? id = some h) {c? : Option Connection}
    {w : World} (hdirectory : w.directory = m.world.directory) (hquiet : w.faults = [])
    (hregular : Handle.Regular m.registry w { h with connection := c? })
    (hothers : ∀ other c, id ≠ other → m.connection? other = some c →
      w.wire? c.wire = m.world.wire? c.wire ∧ ∀ c', c? = some c' → c'.wire ≠ c.wire) :
    Regular { m.setConnection id c? with world := w } where
  quiet := hquiet
  chosen := hm.chosen
  compiled := hm.compiled
  handle other h' hother := by
    -- the handle is the one that was changed, or its connection has another wire
    have hother : (m.setConnection id c?).handle? other = some h' := hother
    rw [handle?_setConnection] at hother
    by_cases heq : id = other
    · subst heq
      rw [if_pos rfl, hid] at hother
      cases hother
      exact hregular
    · rw [if_neg heq] at hother
      refine (hm.handle other h' hother).moved hdirectory hquiet fun c hc => (hothers other c heq ?_).1
      rw [connection?_of_handle hother, hc]
  wires a b c c' ha hb hwire := by
    -- the wire that is set is nobody else's
    rcases of_connection?_setConnection ha with ⟨rfl, hc⟩ | ⟨hne, hc⟩
    · rcases of_connection?_setConnection hb with ⟨rfl, hc'⟩ | ⟨hne', hc'⟩
      · rfl
      · exact absurd hwire ((hothers b c' hne' hc').2 c hc)
    · rcases of_connection?_setConnection hb with ⟨rfl, hc'⟩ | ⟨hne', hc'⟩
      · exact absurd hwire.symm ((hothers a c hne hc).2 c' hc')
      · exact hm.wires a b c c' hc hc' hwire
  idle pool hpool other hmem := by
    obtain ⟨hcurrent, hpooled⟩ := hm.idle pool hpool other hmem
    have hserving := (serving_iff hcurrent hpooled).setConnection id c?
    exact ⟨hserving.isCurrent, hserving.isPooled⟩
  kept other hkept := by
    obtain ⟨h', hother, hpooled⟩ := hm.kept other hkept
    have hsame := handle?_setConnection m id other c?
    rw [hother] at hsame
    by_cases heq : id = other
    · rw [if_pos heq] at hsame
      exact ⟨_, hsame, hpooled⟩
    · rw [if_neg heq] at hsame
      exact ⟨_, hsame, hpooled⟩

/-- Taking or giving back the mutex. -/
theorem Regular.ofLock (hm : m.Regular) (isLocked : Bool) : Regular { m with isLocked := isLocked } :=
  ⟨hm.quiet, hm.chosen, hm.compiled, hm.handle, hm.wires, hm.idle, hm.kept⟩

/-- Another pool, which holds handles that may be handed out. -/
theorem Regular.ofPool (hm : m.Regular) {pool : Option (Pool HandleId)}
    (hpool : ∀ p, pool = some p → ∀ id ∈ p.items, m.Serving id true) : Regular { m with pool := pool } :=
  ⟨hm.quiet, hm.chosen, hm.compiled, hm.handle, hm.wires,
    fun p hp id hmem => ⟨(hpool p hp id hmem).isCurrent, (hpool p hp id hmem).isPooled⟩, hm.kept⟩

/-- Other handles are shared and kept ready. -/
theorem Regular.ofKept (hm : m.Regular) (shared ready : Option HandleId)
    (hkept : ∀ id, shared = some id ∨ ready = some id → ∃ h, m.handle? id = some h ∧ h.pooled = false) :
    Regular { m with shared := shared, ready := ready } :=
  ⟨hm.quiet, hm.chosen, hm.compiled, hm.handle, hm.wires, hm.idle, hkept⟩

/-- One more handle, without a connection. -/
theorem Regular.ofNewHandle (hm : m.Regular) {h : Handle} (hclosed : h.connection = none)
    (htemplates : Templates.compile h.settings = .ok h.templates) : Regular { m with handles := m.handles ++ [h] } := by
  have hstays := Stays.ofNewHandle m hclosed
  -- every handle but the new one was there before
  have hlookup (id : HandleId) (h' : Handle) (hid : (m.handles ++ [h])[id]? = some h') :
      m.handle? id = some h' ∨ h' = h := by
    rw [List.getElem?_append] at hid
    split at hid
    · exact .inl hid
    · obtain ⟨_, hget⟩ := List.getElem?_eq_some_iff.mp hid
      rw [List.getElem_singleton] at hget
      exact .inr hget.symm
  -- the new one has no connection, so every connection was there too
  have hconnection (id : HandleId) (c : Connection)
      (hid : Manager.connection? { m with handles := m.handles ++ [h] } id = some c) : m.connection? id = some c := by
    obtain ⟨h', hid, hc⟩ := of_connection?_eq_some hid
    rcases hlookup id h' hid with hold | rfl
    · rw [connection?_of_handle hold, hc]
    · rw [hclosed] at hc
      cases hc
  constructor
  · exact hm.quiet
  · exact hm.chosen
  · exact hm.compiled
  · intro id h' hid
    rcases hlookup id h' hid with hold | rfl
    · -- the templates of the new handle are compiled, and it has no connection to be judged
      exact hm.handle id h' hold
    · refine ⟨htemplates, fun c hc => ?_⟩
      rw [hclosed] at hc
      cases hc
  · intro a b c c' ha hb
    exact hm.wires a b c c' (hconnection a c ha) (hconnection b c' hb)
  · intro pool hpool id hmem
    -- what is idle serves as it did
    obtain ⟨hcurrent, hpooled⟩ := hm.idle pool hpool id hmem
    have hserving := (serving_iff hcurrent hpooled).stays hstays
    exact ⟨hserving.isCurrent, hserving.isPooled⟩
  · intro id hkept
    obtain ⟨h', hid, hpooled⟩ := hm.kept id hkept
    obtain ⟨h'', hid', hkeeps⟩ := hstays.old id h' hid
    exact ⟨h'', hid', hkeeps.pooled.trans hpooled⟩

/-- An orderly program has run on the connection of a handle. -/
theorem Regular.ofServes (hm : m.Regular) {h : Handle} {c c' : Connection} {w : World} (hid : m.handle? id = some h)
    (hc : h.connection = some c) (hserves : Channel.Serves h.settings ⟨c, m.world⟩ ⟨c', w⟩) :
    Regular { m.setConnection id (some c') with world := w } := by
  have hhandle := hm.handle id h hid
  obtain ⟨chosen, hchosen, hestablished⟩ := hhandle.connection c hc
  have hestablished' := hestablished.serves hserves
  have hwire : c'.wire = c.wire := hserves.wire
  refine hm.ofConnection hid hserves.world.directory hestablished'.quiet ⟨hhandle.templates, ?_⟩ ?_
  · rintro _ ⟨⟩
    exact ⟨chosen, hchosen, hestablished'⟩
  · intro other d hne hd
    -- no other handle shares the wire on which the program ran
    have hdifferent : d.wire ≠ c.wire := by
      intro hsame
      exact hne (hm.wires id other c d (by rw [connection?_of_handle hid, hc]) hd hsame.symm)
    refine ⟨hserves.world.others _ hdifferent, ?_⟩
    rintro _ ⟨⟩
    rw [hwire]
    exact hdifferent.symm

/-- A connection has been opened for a handle. -/
theorem Regular.ofEstablished (hm : m.Regular) {h : Handle} {c : Connection} {w : World}
    (hid : m.handle? id = some h) (hsnapshot : h.snapshot = m.active) (hextends : World.Extends m.world w)
    (hnew : m.world.wires.length < c.wire)
    (hestablished : Connection.Established m.connector m.tls h.settings ⟨c, w⟩) :
    Regular { m.setConnection id (some c) with world := w } := by
  have hhandle := hm.handle id h hid
  refine hm.ofConnection hid hextends.directory (hextends.quiet hm.quiet) ⟨hhandle.templates, ?_⟩ ?_
  · rintro _ ⟨⟩
    obtain ⟨notes, hchosen⟩ := hm.chosen
    rw [← hsnapshot] at hchosen
    exact ⟨_, hchosen, hestablished⟩
  · intro other d hne hd
    obtain ⟨h', hother, hd⟩ := of_connection?_eq_some hd
    -- the new wire comes after all that were there
    obtain ⟨_, -, hold⟩ := (hm.handle other h' hother).connection d hd
    refine ⟨hextends.wires _ hold.wire_le, ?_⟩
    rintro _ ⟨⟩ hsame
    exact Nat.not_le_of_lt hnew (hsame ▸ hold.wire_le)

end Manager

end DirectoryLogin

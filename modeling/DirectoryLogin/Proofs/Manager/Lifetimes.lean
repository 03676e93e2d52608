import DirectoryLogin.Proofs.Manager.Steps
/-!
# Lives under a Manager

The connections in handles are alive, each on a wire of its own. So whatever the manager does, it uses living wires and
ends each of them once; only when a request to end one is interrupted, a handle keeps what has been ended.

- `Manager.Alive`: what is true at any time of a transcript and the manager it has led to.
- `Manager.Step.sustains`: what every step keeps, for each kind of step.
- `Manager.Advances.sustains`: the same for any steps.
-/

namespace DirectoryLogin

/-- No request to end a connection was interrupted. -/
def Heard.Uninterrupted (es : List Heard) : Prop :=
  ∀ x ∈ es, x.event.request = .unbind → FailsOrdinarily x.verdict

/-- The settings choose connections to the directory, if they can be used at all. -/
def Registry.ChoosesStandard (r : Registry) (s : Settings) : Prop :=
  r.connector s.contextFactory ≠ .ok .prepared

/-- Where there are no other connections, settings choose connections to the directory. -/
theorem Registry.ChoosesStandard.of_forall {r : Registry} (h : ∀ entry ∈ r.connectors, entry.2 = .standard)
    (s : Settings) : r.ChoosesStandard s := by
  intro hchosen
  unfold connector find at hchosen
  rcases hlookup : r.connectors.lookup s.contextFactory with _ | kind
  · rw [hlookup] at hchosen
    cases hchosen
  · rw [hlookup] at hchosen
    cases hchosen
    obtain ⟨before, after, heq, -⟩ := List.lookup_eq_some_iff.mp hlookup
    have hentry := h (s.contextFactory, .prepared) (heq ▸ List.mem_append_right before List.mem_cons_self)
    cases hentry

theorem Registry.ChoosesStandard.connector {r : Registry} {s : Settings} (h : r.ChoosesStandard s)
    {chosen : Collaborators} (hchosen : r.collaborators s = .ok chosen) : chosen.connector = .standard := by
  obtain ⟨hconnector, -⟩ := of_collaborators_ok hchosen
  cases hkind : chosen.connector with
  | standard => rfl
  | prepared => exact absurd (hconnector.trans (congrArg Except.ok hkind)) h

namespace Manager

open Heard (onWire onWire_append_of_wire onWire_append_of_fresh Uninterrupted)

variable {m m' m'' : Manager} {id : HandleId} {c : Connection} {t es : List Heard} {next : Snapshot → Prop}

/-! ## §1 Living connections -/

/-- The monitor has followed the transcript on every wire, and the connections in handles are alive, each on a wire of
its own. -/
structure Alive (t : List Heard) (m : Manager) : Prop where
  lives : ∀ n, ∃ l, Life.unborn.after (onWire n t) = some l
  wired : ∀ x ∈ t, x.event.wire ≤ m.world.wires.length
  alive : ∀ id c, m.connection? id = some c →
    c.wire ≤ m.world.wires.length ∧ Life.unborn.after (onWire c.wire t) = some .alive
  apart : ∀ id c other d, m.connection? id = some c → m.connection? other = some d → c.wire = d.wire → id = other

namespace Alive

/-- Nothing is sent, and no handle gets a connection. -/
theorem frame (hm : m.Alive t) (hconnections : ∀ id c, m'.connection? id = some c → m.connection? id = some c)
    (hlength : m.world.wires.length ≤ m'.world.wires.length) : m'.Alive t where
  lives := hm.lives
  wired x hx := Nat.le_trans (hm.wired x hx) hlength
  alive id c hc := by
    obtain ⟨hlow, halive⟩ := hm.alive id c (hconnections id c hc)
    exact ⟨Nat.le_trans hlow hlength, halive⟩
  apart id c other d hc hd := hm.apart id c other d (hconnections id c hc) (hconnections other d hd)

/-- A connection is used. -/
theorem used (hm : m.Alive t) (hc : m.connection? id = some c)
    (hall : ∀ x ∈ es, x.event.wire = c.wire ∧ x.event.request.isUse = true)
    (hconnections : ∀ other d', m'.connection? other = some d' →
      ∃ d, m.connection? other = some d ∧ d'.wire = d.wire)
    (hlength : m'.world.wires.length = m.world.wires.length) : m'.Alive (t ++ es) := by
  have honWire (n : Nat) : onWire n (t ++ es) = if n = c.wire then onWire n t ++ es else onWire n t :=
    onWire_append_of_wire (fun x hx => (hall x hx).1) n
  obtain ⟨hlow, halive⟩ := hm.alive id c hc
  -- its own wire lives on, and nothing is heard on any other one
  have hused : Life.unborn.after (onWire c.wire (t ++ es)) = some .alive := by
    rw [honWire, if_pos rfl, Life.after_append_of_some halive]
    exact Life.alive_after_of_isUse fun x hx => (hall x hx).2
  refine ⟨fun n => ?_, ?_, fun other d' hd' => ?_, fun id₁ c₁ id₂ c₂ hc₁ hc₂ hwire => ?_⟩
  · by_cases hn : n = c.wire
    · exact ⟨_, hn ▸ hused⟩
    · rw [honWire, if_neg hn]
      exact hm.lives n
  · rw [hlength]
    exact List.forall_mem_append.mpr ⟨hm.wired, fun x hx => (hall x hx).1 ▸ hlow⟩
  · obtain ⟨d, hd, hwire⟩ := hconnections other d' hd'
    rw [hlength, hwire]
    by_cases hn : d.wire = c.wire
    · rw [hn]
      exact ⟨hlow, hused⟩
    · rw [honWire, if_neg hn]
      exact hm.alive other d hd
  · obtain ⟨d₁, hd₁, hwire₁⟩ := hconnections id₁ c₁ hc₁
    obtain ⟨d₂, hd₂, hwire₂⟩ := hconnections id₂ c₂ hc₂
    exact hm.apart id₁ d₁ id₂ d₂ hd₁ hd₂ (hwire₁.symm.trans (hwire.trans hwire₂))

/-- A connection is ended, and its handle gives it up. The other handles have other wires. -/
theorem ended (hm : m.Alive t) (hc : m.connection? id = some c) (verdict : Except Failure Bool)
    (hconnections : ∀ other d, m'.connection? other = some d → id ≠ other ∧ m.connection? other = some d)
    (hlength : m'.world.wires.length = m.world.wires.length) :
    m'.Alive (t ++ [⟨⟨c.wire, .unbind⟩, verdict⟩]) := by
  have honWire (n : Nat) : onWire n (t ++ [⟨⟨c.wire, .unbind⟩, verdict⟩]) =
      if n = c.wire then onWire n t ++ [⟨⟨c.wire, .unbind⟩, verdict⟩] else onWire n t :=
    onWire_append_of_wire (List.forall_mem_singleton.mpr rfl) n
  obtain ⟨hlow, halive⟩ := hm.alive id c hc
  refine ⟨fun n => ?_, ?_, fun other d hd => ?_, fun id₁ c₁ id₂ c₂ hc₁ hc₂ hwire => ?_⟩
  · rw [honWire]
    split
    · rename_i hn
      exact ⟨.ended, by rw [hn, Life.after_append_of_some halive]; rfl⟩
    · exact hm.lives n
  · rw [hlength]
    exact List.forall_mem_append.mpr ⟨hm.wired, List.forall_mem_singleton.mpr hlow⟩
  · -- two handles never share a wire, so the one that was ended is not this one's
    obtain ⟨hother, hd⟩ := hconnections other d hd
    rw [hlength, honWire, if_neg fun hwire => hother (hm.apart id c other d hc hd hwire.symm)]
    exact hm.alive other d hd
  · exact hm.apart id₁ c₁ id₂ c₂ (hconnections id₁ c₁ hc₁).2 (hconnections id₂ c₂ hc₂).2 hwire

/-- Connections are opened, and at most one handle gets one, which is alive. -/
theorem attempted (hm : m.Alive t) (id : HandleId) (h : World.Attempts es m.world m'.world)
    (hconnections : ∀ other d, m'.connection? other = some d → m.connection? other = some d ∨
      other = id ∧ m.world.wires.length < d.wire ∧ d.wire ≤ m'.world.wires.length ∧
        Life.unborn.after (onWire d.wire es) = some .alive) : m'.Alive (t ++ es) := by
  have honWire := onWire_append_of_fresh hm.wired fun x hx => (h.fresh x hx).1
  have hlength := h.length
  refine ⟨fun n => ?_, ?_, fun other d hd => ?_, fun id₁ c₁ id₂ c₂ hc₁ hc₂ hwire => ?_⟩
  · rw [honWire]
    split
    · exact hm.lives n
    · exact h.lives n
  · exact List.forall_mem_append.mpr
      ⟨fun x hx => Nat.le_trans (hm.wired x hx) hlength, fun x hx => (h.fresh x hx).2⟩
  · rw [honWire]
    rcases hconnections other d hd with hd | ⟨-, hlow, hhigh, halive⟩
    · obtain ⟨hwired, halive⟩ := hm.alive other d hd
      rw [if_pos hwired]
      exact ⟨Nat.le_trans hwired hlength, halive⟩
    · rw [if_neg (Nat.not_le_of_gt hlow)]
      exact ⟨hhigh, halive⟩
  · -- an old wire is not a new one
    rcases hconnections id₁ c₁ hc₁ with hold₁ | ⟨rfl, hnew₁, -⟩
    all_goals rcases hconnections id₂ c₂ hc₂ with hold₂ | ⟨rfl, hnew₂, -⟩
    · exact hm.apart id₁ c₁ id₂ c₂ hold₁ hold₂ hwire
    · have hwired := (hm.alive id₁ c₁ hold₁).1
      omega
    · have hwired := (hm.alive id₂ c₂ hold₂).1
      omega
    · rfl

end Alive

/-! ## §2 What steps keep -/

/-- The manager goes on to open connections to the directory; what is sent on the way is told, and unless a request to
end a connection is interrupted, the connections in handles are alive as before. -/
def Sustains (m m' : Manager) : Prop :=
  m.connector = .standard → m'.connector = .standard ∧
    ∃ es, World.Recounts es m.world m'.world ∧ (Uninterrupted es → ∀ t, m.Alive t → m'.Alive (t ++ es))

instance : IsPreorder Manager Sustains where
  refl _ := fun hstandard =>
    ⟨hstandard, [], .nil rfl (.nil rfl rfl), fun _ t hm => by rwa [List.append_nil]⟩
  trans _ _ _ h g := by
    intro hstandard
    obtain ⟨hstandard', es, hes, hkeeps⟩ := h hstandard
    obtain ⟨hstandard'', es', hes', hkeeps'⟩ := g hstandard'
    refine ⟨hstandard'', es ++ es', hes.trans hes', fun hcalm t hm => ?_⟩
    obtain ⟨hcalm, hcalm'⟩ := List.forall_mem_append.mp hcalm
    rw [← List.append_assoc]
    exact hkeeps' hcalm' _ (hkeeps hcalm t hm)

/-- Nothing is sent, and no handle gets a connection. -/
theorem Sustains.ofFrame (hconnector : m.connector = .standard → m'.connector = .standard)
    (hconnections : ∀ id c, m'.connection? id = some c → m.connection? id = some c)
    (hworld : ∃ journal, m'.world = { m.world with journal := journal }) : Sustains m m' := by
  obtain ⟨journal, hworld⟩ := hworld
  refine fun hstandard => ⟨hconnector hstandard, [], ?_, fun _ t hm => ?_⟩
  · rw [hworld]
    exact .nil rfl (.nil rfl rfl)
  · rw [List.append_nil]
    refine hm.frame hconnections ?_
    rw [hworld]

/-- **Every step** keeps connections alive, each in its own way. -/
theorem Step.sustains (hnext : ∀ snapshot, next snapshot → m.registry.ChoosesStandard snapshot.settings)
    (h : Step next m m') : Sustains m m' := by
  cases h with
  | books _ _ hconnector hconnections hworld =>
    exact .ofFrame hconnector.trans (fun id c hc => (hconnections id).symm.trans hc) hworld
  | used id c ch hc huses =>
    intro hstandard
    obtain ⟨es, hes, hall⟩ := huses.world.recounts huses.directory
    refine ⟨hstandard, es, hes, fun _ t hm => hm.used hc hall (fun other d' hd' => ?_) huses.world.length⟩
    -- the handle has its connection back, on the same wire
    rcases of_connection?_setConnection hd' with ⟨rfl, heq⟩ | ⟨-, hd⟩
    · cases heq
      exact ⟨c, hc, huses.wire⟩
    · exact ⟨d', hd, rfl⟩
  | ended id c hc =>
    intro hstandard
    obtain ⟨verdict, hrecounts, -⟩ := Exchange.close_recounts ⟨c, m.world⟩
    refine ⟨hstandard, _, hrecounts, fun _ t hm => hm.ended hc verdict (fun other d hd => ?_)
      (Exchange.close_proceeds ⟨c, m.world⟩).world.length⟩
    rcases of_connection?_setConnection hd with ⟨-, heq⟩ | hd
    · cases heq
    · exact hd
  | interrupted id c hc hinterrupt =>
    intro hstandard
    obtain ⟨verdict, hrecounts, hordinary⟩ := Exchange.close_recounts ⟨c, m.world⟩
    -- the one step after which a handle keeps what has been ended; it is ruled out
    exact ⟨hstandard, _, hrecounts, fun hcalm => absurd (hordinary (hcalm _ List.mem_cons_self rfl)) hinterrupt⟩
  | opened id s c w hopen =>
    intro hstandard
    rw [hstandard] at hopen
    obtain ⟨es, hes, hlow, hhigh, halive⟩ := Connection.establish_attempts hopen
    refine ⟨hstandard, es, hes.recounts, fun _ t hm => hm.attempted id hes fun other d hd => ?_⟩
    rcases of_connection?_setConnection hd with ⟨rfl, heq⟩ | ⟨-, hd⟩
    · cases heq
      exact .inr ⟨rfl, hlow, hhigh, halive⟩
    · exact .inl hd
  | failed s e w hopen =>
    intro hstandard
    rw [hstandard] at hopen
    obtain ⟨es, hes⟩ := (Connection.establish_attempted m.tls s).of_perform hopen
    exact ⟨hstandard, es, hes.recounts, fun _ t hm => hm.attempted 0 hes fun other d hd => .inl hd⟩
  | activated snapshot chosen id hactive hchosen =>
    exact .ofFrame (fun _ => (hnext snapshot hactive).connector hchosen) (fun _ _ hc => hc) ⟨m.world.journal, rfl⟩

/-- **Any steps** keep connections alive. -/
theorem Advances.sustains (hnext : ∀ snapshot, next snapshot → m.registry.ChoosesStandard snapshot.settings)
    (h : Advances next m m') : Sustains m m' := by
  induction h with
  | refl => exact refl_of _ m
  | tail hsteps hstep ih =>
    exact trans_of _ ih (hstep.sustains fun snapshot hs => Advances.registry hsteps ▸ hnext snapshot hs)

end Manager

end DirectoryLogin

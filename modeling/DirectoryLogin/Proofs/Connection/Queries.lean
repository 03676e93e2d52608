import DirectoryLogin.Proofs.Orderly
/-!
# What a Connection Asks For

Besides binds, the operations of a connection send queries: searches and reads. `Channel.Asks` says which queries were
sent between two states of a connection, in their order; binds may come before each of them.

- `Exchange.search_asksOnce`, `Exchange.read_asksOnce`: a search and a read send one query, or fail before they could.
- `Channel.AsksOnce.bracketed`: acting under another identity sends nothing of its own.
-/

namespace DirectoryLogin

/-! ## §1 Queries on the record -/

/-- The request is a bind. -/
def Request.isBind : Request → Bool
  | .bind _ => true
  | _ => false

namespace Channel

/-- Between the two states the connection has sent these queries, in this order, and nothing else but binds. -/
structure Asks (queries : List Request) (ch ch' : Channel) : Prop where
  wire : ch'.connection.wire = ch.connection.wire
  events : ∃ requests : List Request,
    ch'.world.events = ch.world.events ++ requests.map (Event.mk ch.connection.wire) ∧
      requests.filter (!·.isBind) = queries

namespace Asks

variable {queries queries' : List Request} {ch ch' ch'' : Channel}

/-- Nothing was sent. -/
theorem of_events (hwire : ch'.connection.wire = ch.connection.wire) (hevents : ch'.world.events = ch.world.events) :
    Asks [] ch ch' :=
  ⟨hwire, [], by simp [hevents], rfl⟩

/-- Nothing but a bind was sent. -/
theorem of_bind {r : BindRequest} (hwire : ch'.connection.wire = ch.connection.wire)
    (hevents : ch'.world.events = ch.world.events ++ [⟨ch.connection.wire, .bind r⟩]) : Asks [] ch ch' :=
  ⟨hwire, [.bind r], hevents, rfl⟩

theorem trans (h : Asks queries ch ch') (g : Asks queries' ch' ch'') : Asks (queries ++ queries') ch ch'' := by
  obtain ⟨hwire, requests, hevents, hqueries⟩ := h
  obtain ⟨hwire', requests', hevents', hqueries'⟩ := g
  refine ⟨hwire'.trans hwire, requests ++ requests', ?_, ?_⟩
  · rw [hevents', hevents, hwire, List.map_append, List.append_assoc]
  · rw [List.filter_append, hqueries, hqueries']

/-- The environment is not on the record. -/
theorem enter {e : Environment} (h : Asks queries (ch.withEnvironment e) ch') : Asks queries ch ch' :=
  ⟨h.wire, h.events⟩

theorem leave (h : Asks queries ch ch') (e : Environment) : Asks queries ch (ch'.withEnvironment e) :=
  ⟨h.wire, h.events⟩

instance : IsPreorder Channel (Asks []) where
  refl _ := of_events rfl rfl
  trans _ _ _ h g := h.trans g

end Asks

/-- Every step on a connection has sent some queries. -/
theorem Steady.asks {ch ch' : Channel} (h : Steady ch ch') : ∃ queries, Asks queries ch ch' := by
  obtain ⟨requests, hrequests⟩ := h.world.events
  exact ⟨_, h.wire, requests, hrequests, rfl⟩

/-- A run from the channel has sent this query once, or has failed before it could. -/
def AsksOnce {α : Type} (query : Request) (ch : Channel) (run : Except Failure α × Channel) : Prop :=
  ch.Asks [query] run.2 ∨ ch.Asks [] run.2 ∧ ∃ e, run.1 = .error e

namespace AsksOnce

variable {α β : Type} {query : Request} {ch ch' : Channel} {x : Exchange α}

/-- A run that has given a value has sent the query. -/
theorem asks_of_ok {a : α} (h : ch.AsksOnce query (.ok a, ch')) : ch.Asks [query] ch' := by
  rcases h with hasks | ⟨-, e, he⟩
  · exact hasks
  · cases he

/-- In any case there was no other query, and no second one. -/
theorem asks_le {run : Except Failure α × Channel} (h : ch.AsksOnce query run) :
    ∃ queries, ch.Asks queries run.2 ∧ queries.length ≤ 1 ∧ ∀ q ∈ queries, q = query := by
  rcases h with hasks | ⟨hasks, -⟩
  · exact ⟨_, hasks, Nat.le_refl 1, List.forall_mem_singleton.mpr rfl⟩
  · exact ⟨_, hasks, Nat.zero_le 1, List.forall_mem_nil _⟩

/-- What follows without a query changes nothing. -/
theorem bind_silent {f : α → Exchange β} (h : ch.AsksOnce query (x.perform ch))
    (hf : ∀ a, (f a).Respects (Asks [])) : ch.AsksOnce query ((x >>= f).perform ch) := by
  rcases hrun : x.perform ch with ⟨e | a, ch₁⟩
  · rw [Session.perform_bind_of_error hrun]
    rw [hrun] at h
    rcases h with hasks | ⟨hasks, -⟩
    · exact .inl hasks
    · exact .inr ⟨hasks, e, rfl⟩
  · rw [Session.perform_bind_of_ok hrun]
    rw [hrun] at h
    exact .inl (h.asks_of_ok.trans (hf a ch₁))

/-- Acting under another identity sends nothing of its own. -/
theorem bracketed {enter : Environment → Environment} {leave : Environment → Environment → Environment}
    (h : (ch.withEnvironment (enter ch.connection.environment)).AsksOnce query
      (x.perform (ch.withEnvironment (enter ch.connection.environment)))) :
    ch.AsksOnce query ((Exchange.bracketed enter leave x).perform ch) := by
  rcases h with hasks | ⟨hasks, hfailed⟩
  · exact .inl (hasks.enter.leave _)
  · exact .inr ⟨hasks.enter.leave _, hfailed⟩

end AsksOnce

end Channel

namespace Exchange

open Channel

variable {α : Type}

/-! ## §2 The queries of the operations -/

/-- Binding sends no query. -/
theorem bind_asks : bind.Respects (Asks []) := by
  intro ch
  rcases hresult : bind.perform ch with ⟨result, ch'⟩
  have hrun := bind_run ch
  rw [hresult] at hrun
  cases hrun with
  -- a bind that sends nothing, or cannot be built, asks nothing
  | skipped => exact refl_of _ _
  | unsupported => exact refl_of _ _
  | accepted _ r w _ hanswer =>
    -- one that is sent is no search, whatever its answer
    obtain ⟨user, -, rfl⟩ := World.of_bindWire_accepted hanswer
    exact .of_bind (r := r) rfl (by simp)
  | refused _ r _ w _ _ hanswer hfalse =>
    obtain rfl := World.of_bindWire_refused hanswer hfalse
    exact .of_bind (r := r) rfl (by simp)

/-- A query is sent after a bind, unless the bind has failed. -/
theorem asksOnce_of_bound {body : Exchange α} (query : Connection → Request)
    (hbody : ∀ ch, ∃ faults, (body.perform ch).2 =
      { ch with world := { ch.world.record ch.connection.wire (query ch.connection) with faults := faults } })
    (hquery : ∀ {ch ch'}, Proceeds ch ch' → query ch'.connection = query ch.connection)
    (hbind : ∀ c, (query c).isBind = false) (ch : Channel) :
    ch.AsksOnce (query ch.connection) ((bind >>= fun _ => body).perform ch) := by
  rcases hrun : bind.perform ch with ⟨e | _, ch₁⟩
  · rw [Session.perform_bind_of_error hrun]
    exact .inr ⟨bind_asks.of_perform hrun, e, rfl⟩
  · rw [Session.perform_bind_of_ok hrun]
    obtain ⟨faults, hstate⟩ := hbody ch₁
    have hsent : ch₁.Asks [query ch.connection] (body.perform ch₁).2 := by
      rw [hstate, ← hquery (bind_proceeds.of_perform hrun)]
      exact ⟨rfl, [query ch₁.connection], rfl, by simp [hbind]⟩
    exact .inl ((bind_asks.of_perform hrun).trans hsent)

/-- **A search** sends one query. -/
theorem search_asksOnce (base filter : String) (controls : SearchControls) (ch : Channel) :
    ch.AsksOnce (searchQuery ch.connection base filter controls) ((search base filter controls).perform ch) := by
  rw [search_eq]
  refine asksOnce_of_bound (fun c => searchQuery c base filter controls) (fun ch => ?_) (fun h => ?_)
    (fun c => ?_) ch
  · obtain ⟨faults, -, hstate⟩ := searchBound_state base filter controls ch
    exact ⟨faults, hstate⟩
  · simp only [searchQuery, searchRequest, Connection.fullName, h.kind, h.namespaceName, h.environment]
  · unfold searchQuery
    cases c.kind <;> rfl

/-- **A read** sends one query. -/
theorem read_asksOnce (dn : String) (names : Option (List String)) (ch : Channel) :
    ch.AsksOnce (readQuery ch.connection dn names) ((read dn names).perform ch) := by
  rw [read_eq]
  refine asksOnce_of_bound (fun c => readQuery c dn names) (fun ch => ?_) (fun h => ?_) (fun c => ?_) ch
  · obtain ⟨faults, -, hstate⟩ := readBound_state dn names ch
    exact ⟨faults, hstate⟩
  · simp only [readQuery, readRequest, Connection.fullName, h.kind, h.namespaceName, h.environment]
  · unfold readQuery
    cases c.kind <;> rfl

/-! ## §3 The same query under another identity -/

/-- What a search puts on the wire depends on the environment only for the way aliases are followed. -/
theorem searchQuery_congr {c c' : Connection} (hkind : c'.kind = c.kind) (hname : c'.namespaceName = c.namespaceName)
    (haliases : c'.environment.get? Environment.derefAliases = c.environment.get? Environment.derefAliases)
    (base filter : String) (controls : SearchControls) :
    searchQuery c' base filter controls = searchQuery c base filter controls := by
  simp only [searchQuery, searchRequest, Connection.fullName, Environment.dereference, Environment.value, hkind, hname,
    haliases]

/-- What a read puts on the wire depends on the environment only for the way aliases are followed. -/
theorem readQuery_congr {c c' : Connection} (hkind : c'.kind = c.kind) (hname : c'.namespaceName = c.namespaceName)
    (haliases : c'.environment.get? Environment.derefAliases = c.environment.get? Environment.derefAliases)
    (dn : String) (names : Option (List String)) :
    readQuery c' dn names = readQuery c dn names := by
  simp only [readQuery, readRequest, Connection.fullName, Environment.dereference, Environment.value, hkind, hname,
    haliases]

theorem searchQuery_asUser (ch : Channel) (name : Option String) (password : Option Password) (base filter : String)
    (controls : SearchControls) :
    searchQuery (ch.withEnvironment (ch.connection.environment.asUser name password)).connection base filter controls =
      searchQuery ch.connection base filter controls := by
  apply searchQuery_congr
  · rfl
  · rfl
  · exact ch.connection.environment.get?_asUser name password (by decide) (by decide)

theorem readQuery_asUser (ch : Channel) (name : Option String) (password : Option Password) (dn : String)
    (names : Option (List String)) :
    readQuery (ch.withEnvironment (ch.connection.environment.asUser name password)).connection dn names =
      readQuery ch.connection dn names := by
  apply readQuery_congr
  · rfl
  · rfl
  · exact ch.connection.environment.get?_asUser name password (by decide) (by decide)

end Exchange

/-- Programs leave the way in which aliases are followed as it was. -/
theorem Channel.Serves.derefAliases {s : Settings} {ch ch' : Channel} (h : Serves s ch ch') :
    ch'.connection.environment.get? Environment.derefAliases =
      ch.connection.environment.get? Environment.derefAliases :=
  h.environment.others _ (by decide) (by decide)

end DirectoryLogin

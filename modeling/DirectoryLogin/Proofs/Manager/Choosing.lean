import DirectoryLogin.Proofs.Manager.Operations
/-!
# What the Active Settings Have Chosen

The active settings choose of which kind connections are and how these are encrypted, and new handles are made for them.
The manager leaves all of this alone until other settings become the active ones, and only settings that can be used
ever do.

- `Manager.Upholds`: what every operation but new settings leaves alone, and for whom it makes handles.
- `Managed.…_upholds`: one lemma for each operation.
- `Managed.reconfigure_received`: how new settings are received, however that ends.
- `Manager.Evolves`: whatever the manager does, the active settings stay such that they can be used.
-/

namespace DirectoryLogin

namespace Manager

variable {m m' m'' : Manager} {snapshot : Snapshot}

/-! ## §1 Upholding a choice -/

/-- What settings choose from, which ones are active, and what they have chosen. -/
def choice (m : Manager) : Registry × Snapshot × ConnectionKind × Option TlsArguments :=
  (m.registry, m.active, m.connector, m.tls)

/-- The choice stays as it is, and handles are made for no other snapshot than this one. -/
structure Upholds (snapshot : Snapshot) (m m' : Manager) : Prop where
  choice : m'.choice = m.choice
  handles : ∀ id h', m'.handle? id = some h' →
    h'.snapshot = snapshot ∨ ∃ h, m.handle? id = some h ∧ h'.snapshot = h.snapshot

instance (snapshot : Snapshot) : IsPreorder Manager (Upholds snapshot) where
  refl _ := ⟨rfl, fun _ h hid => .inr ⟨h, hid, rfl⟩⟩
  trans _ _ _ u u' := by
    refine ⟨u'.choice.trans u.choice, fun id h'' hid => ?_⟩
    rcases u'.handles id h'' hid with hnew | ⟨h', hid', hsame'⟩
    · exact .inl hnew
    · rw [hsame']
      exact u.handles id h' hid'

namespace Upholds

/-- Neither the choice nor the handles have changed. -/
theorem ofFrame (hchoice : m'.choice = m.choice) (hhandles : m'.handles = m.handles) : Upholds snapshot m m' := by
  refine ⟨hchoice, fun id h' hid => .inr ⟨h', ?_, rfl⟩⟩
  rwa [handle?, hhandles] at hid

/-- Only connections and the world have changed. -/
theorem ofBooks (h : SameBooks m m') : Upholds snapshot m m' := by
  constructor
  · show m'.books.choice = m.books.choice
    rw [h.books_eq]
  · intro id h' hid
    obtain ⟨h₀, hid₀, hsame, -⟩ := SameBooks.handle (m := m') h.books_eq.symm hid
    exact .inr ⟨h₀, hid₀, hsame.symm⟩

/-- There is one more handle. -/
theorem ofNewHandle (m : Manager) {h : Handle} (hsnapshot : h.snapshot = snapshot) :
    Upholds snapshot m { m with handles := m.handles ++ [h] } := by
  refine ⟨rfl, fun id h' hid => ?_⟩
  simp only [handle?, List.getElem?_append] at hid
  split at hid
  · exact .inr ⟨h', hid, rfl⟩
  · rw [List.mem_singleton.mp (List.mem_of_getElem? hid)]
    exact .inl hsnapshot

theorem active (u : Upholds snapshot m m') : m'.active = m.active :=
  congrArg (fun choice => choice.2.1) u.choice

end Upholds

/-- The choice stays as it is, and handles are made for the active snapshot. -/
def Abides (m m' : Manager) : Prop :=
  Upholds m.active m m'

instance : IsPreorder Manager Abides where
  refl m := refl_of (Upholds m.active) m
  trans m _ _ u u' := trans_of (Upholds m.active) u (u.active ▸ u')

end Manager

namespace Managed

open Manager

variable {α : Type} {m : Manager} {snapshot : Snapshot}

/-! ## §2 Operations under the same settings -/

theorem abides {x : Managed α} (hx : ∀ snapshot, x.Respects (Upholds snapshot)) : x.Respects Abides :=
  fun m => hx m.active m

theorem lock_upholds : lock.Respects (Upholds snapshot) := by
  refine .bind_get fun m => ?_
  split
  · exact refl_of _ m
  · exact .ofFrame rfl rfl

theorem unlock_upholds : unlock.Respects (Upholds snapshot) := by
  refine .bind_get fun m => ?_
  split
  · exact refl_of _ m
  · exact .ofFrame rfl rfl

theorem unlockFor_upholds (id : HandleId) : (unlockFor id).Respects (Upholds snapshot) := by
  refine .bind_get fun m => ?_
  split
  · exact unlock_upholds m
  · exact refl_of _ m

theorem onWorld_upholds (x : Session World α) : (onWorld x).Respects (Upholds snapshot) :=
  fun m => .ofBooks (onWorld_sameBooks x m)

theorem onHandle_upholds (id : HandleId) (x : Handle → Exchange α) : (onHandle id x).Respects (Upholds snapshot) :=
  fun m => .ofBooks (onHandle_sameBooks id x m)

theorem openHandle_upholds (id : HandleId) : (openHandle id).Respects (Upholds snapshot) :=
  fun m => .ofBooks (openHandle_sameBooks id m)

theorem closeConnection_upholds (id : HandleId) : (closeConnection id).Respects (Upholds snapshot) :=
  fun m => .ofBooks (closeConnection_sameBooks id m)

theorem forM_closeConnection_upholds (ids : List HandleId) :
    (ids.forM closeConnection).Respects (Upholds snapshot) :=
  fun m => .ofBooks (forM_closeConnection_sameBooks ids m)

theorem newHandle_upholds (snapshot : Snapshot) (pooled : Bool) :
    (newHandle snapshot pooled).Respects (Upholds snapshot) := by
  intro m
  rcases newHandle_makes snapshot pooled m with ⟨h, hrun, hsnapshot, -, -⟩ | ⟨e, he, hrun⟩
  · rw [hrun]
    exact .ofNewHandle m hsnapshot
  · rw [hrun]
    exact refl_of _ m

theorem shareNew_upholds (snapshot : Snapshot) : (shareNew snapshot).Respects (Upholds snapshot) := by
  intro m
  have hforget : Upholds snapshot m { m with ready := none } := .ofFrame rfl rfl
  have hshare (id : HandleId) : Session.Respects (Upholds snapshot) (do
      modify fun m : Manager => { m with shared := some id }
      return id) := .bind (.modify fun m => .ofFrame rfl rfl) fun _ => .pure _
  rw [shareNew, Session.perform_bind_of_ok (Session.perform_get m),
    Session.perform_bind_of_ok (Session.perform_set m _)]
  refine trans_of _ hforget ?_
  rcases m.readyFor? snapshot with _ | id
  · exact Session.Respects.bind (newHandle_upholds snapshot false) hshare _
  · exact Session.Respects.bind (.pure id) hshare _

theorem sharedHandle_upholds (snapshot : Snapshot) : (sharedHandle snapshot).Respects (Upholds snapshot) := by
  intro m
  rw [perform_sharedHandle]
  split
  · exact refl_of _ m
  · exact Session.Respects.bind (forM_closeConnection_upholds _) (fun _ => shareNew_upholds snapshot) m

theorem takeHandle_abides : takeHandle.Respects Abides := by
  refine .bind_get fun m => ?_
  split
  · split
    · exact .ofFrame rfl rfl
    · exact newHandle_upholds m.active true m
  · exact Session.Respects.bind lock_upholds
      (fun _ => .onFailure (sharedHandle_upholds m.active) fun _ => unlock_upholds) m

/-- **Acquiring a handle** makes at most one, for the active snapshot. -/
theorem acquire_abides : acquire.Respects Abides := by
  rw [acquire_eq]
  refine .bind takeHandle_abides fun id => .bind_get fun m => ?_
  split
  · exact Session.Respects.bind (.onFailure (abides fun _ => openHandle_upholds id) fun _ =>
      abides fun _ => unlockFor_upholds id) (fun _ => .pure _) m
  · exact refl_of _ m

theorem close_upholds (id : HandleId) : (close id).Respects (Upholds snapshot) := by
  rw [close_eq]
  exact .bind (closeConnection_upholds id) fun _ => unlockFor_upholds id

theorem release_upholds (id : HandleId) : (release id).Respects (Upholds snapshot) := by
  refine .bind_get fun m => ?_
  split
  · split
    · exact .ofFrame rfl rfl
    · exact closeConnection_upholds id m
  · split
    · exact Session.Respects.bind (closeConnection_upholds id) (fun _ => unlock_upholds) m
    · exact unlock_upholds m

theorem drainPool_upholds : drainPool.Respects (Upholds snapshot) := by
  refine .bind_get fun m => ?_
  split
  · exact refl_of _ m
  · rename_i pool _
    have hempty : Upholds snapshot m { m with pool := some pool.drain.2 } := .ofFrame rfl rfl
    exact trans_of _ hempty (forM_closeConnection_upholds pool.drain.1 _)

theorem closeShared_upholds : closeShared.Respects (Upholds snapshot) := by
  refine .bind lock_upholds fun _ => .bind_get fun m => ?_
  have hforget : Upholds snapshot m { m with shared := none, ready := none, isLocked := false } := .ofFrame rfl rfl
  have hclose : Session.Respects (Upholds snapshot)
      (m.shared.toList.forM closeConnection >>= fun _ => m.ready.toList.forM closeConnection) :=
    .bind (forM_closeConnection_upholds _) fun _ => forM_closeConnection_upholds _
  exact trans_of _ hforget (hclose _)

theorem shutdown_upholds : shutdown.Respects (Upholds snapshot) :=
  .bind closeShared_upholds fun _ => drainPool_upholds

theorem retire_upholds (pool : Option (Pool HandleId)) (s : Settings) :
    (retire pool s).Respects (Upholds snapshot) := by
  refine .bind (forM_closeConnection_upholds _) fun _ => ?_
  split
  · exact .bind closeShared_upholds fun _ => onWorld_upholds _
  · exact onWorld_upholds _

theorem start_abides : start.Respects Abides := by
  intro m
  have hacquire := acquire_abides m
  rw [perform_start]
  rcases hrun : acquire.perform m with ⟨e | id, m₁⟩
  all_goals rw [hrun] at hacquire
  · by_cases he : e.isOrdinary = true
    · simp only [he, if_true]
      exact trans_of Abides hacquire (onWorld_upholds _ m₁)
    · simp only [he]
      exact hacquire
  · exact trans_of Abides hacquire (release_upholds id m₁)

section Programs

variable (x : Handle → Exchange α)

theorem attempt_abides : (attempt x).Respects Abides := by
  rw [attempt_eq]
  refine .bind acquire_abides fun id => .bind
    (.onFailure (abides fun _ => onHandle_upholds id x) fun _ => ?_)
    fun a => .bind (abides fun _ => release_upholds id) fun _ => .pure _
  exact .bind (abides fun _ => close_upholds id) fun _ => abides fun _ => drainPool_upholds

theorem attemptTwice_abides (description : String) : (attemptTwice description x).Respects Abides :=
  .rescue_if (attempt_abides x) fun _ _ => .bind (abides fun _ => onWorld_upholds _) fun _ => attempt_abides x

end Programs

/-- **What the realm asks of the manager**: a program, tried again on a new connection, and a report. -/
theorem answer_abides (description : String) (x : Handle → Exchange (Option α)) :
    (answer description x).Respects Abides :=
  .rescue_if (attemptTwice_abides x description) fun _ _ => .bind (abides fun _ => onWorld_upholds _) fun _ => .pure _

/-! ## §3 New settings -/

/-- Closing goes on until it is interrupted. -/
theorem closeConnection_interrupted (id : HandleId) :
    (closeConnection id).Confines (fun _ => True) (fun e => e.isOrdinary = false) := by
  intro m _
  refine ⟨fun e he => ?_, trivial⟩
  -- any other failure to end the connection is written down, and the handle is closed all the same
  by_contra hordinary
  have hclosed := (closeConnection_closes id m fun e' he' => by
    rw [he] at he'
    cases he'
    exact (Bool.not_eq_false _).mp hordinary).1
  rw [hclosed] at he
  cases he

theorem lock_interrupted : lock.Confines (fun _ => True) (fun e => e.isOrdinary = false) := by
  refine .bind .get fun m => ?_
  split
  · exact .bind (.throw rfl) fun _ => .modify fun _ _ => trivial
  · exact .modify fun _ _ => trivial

theorem closeShared_interrupted : closeShared.Confines (fun _ => True) (fun e => e.isOrdinary = false) :=
  .bind lock_interrupted fun _ => .bind .get fun _ => .bind (fun _ _ => ⟨.ok _, trivial⟩) fun _ =>
    .bind (.forM closeConnection_interrupted _) fun _ => .forM closeConnection_interrupted _

theorem retire_interrupted (pool : Option (Pool HandleId)) (s : Settings) :
    (retire pool s).Confines (fun _ => True) (fun e => e.isOrdinary = false) := by
  have hsay (text : String) : (say .info text).Confines (fun _ => True) (fun e => e.isOrdinary = false) :=
    fun _ _ => ⟨.ok _, trivial⟩
  refine .bind (.forM closeConnection_interrupted _) fun _ => ?_
  split
  · exact .bind closeShared_interrupted fun _ => hsay _
  · exact hsay _

/-- How new settings are received. -/
inductive Received (snapshot : Snapshot) (m : Manager) : Except Failure HandleId → Manager → Prop
  /-- They are rejected. Nothing is changed, but something may have been said about them. -/
  | rejected (e : Failure) (notes : List Message) (he : e.isRejection = true) :
    Received snapshot m (.error e) { m with world := { m.world with journal := m.world.journal ++ notes } }
  /-- They are the active ones from then on. What is left to do only fails by an interrupt. -/
  | accepted (result : Except Failure HandleId) (m' : Manager) (chosen : Registry.Collaborators) (templates : Templates)
    (hchosen : m.registry.collaborators snapshot.settings = .ok chosen)
    (htemplates : Templates.compile snapshot.settings = .ok templates)
    (hchoice : m'.choice = (m.registry, snapshot, chosen.connector, chosen.tls))
    (hhandles : ∀ id h', m'.handle? id = some h' →
      h'.snapshot = snapshot ∨ ∃ h, m.handle? id = some h ∧ h'.snapshot = h.snapshot)
    (hinterrupted : FailsAs (fun e => e.isOrdinary = false) result) : Received snapshot m result m'

/-- **New settings** are rejected before anything is changed, or they take effect as a whole. -/
theorem reconfigure_received (snapshot : Snapshot) (m : Manager) :
    Received snapshot m ((reconfigure snapshot).perform m).1 ((reconfigure snapshot).perform m).2 := by
  rw [perform_reconfigure]
  rcases hchosen : m.registry.collaborators snapshot.settings with e | chosen
  · have hnothing : Received snapshot m (.error e)
        { m with world := { m.world with journal := m.world.journal ++ [] } } :=
      .rejected e [] (Registry.collaborators_rejected _ _ e hchosen)
    rwa [List.append_nil] at hnothing
  dsimp only
  rw [Session.perform_bind_of_ok (perform_forM_note chosen.notes m)]
  rcases hcreate : Handle.create snapshot snapshot.settings.poolingEnabled with e | h
  · have hnew : (newHandle snapshot snapshot.settings.poolingEnabled).perform
        { m with world := { m.world with journal := m.world.journal ++ chosen.notes } } =
          (.error e, { m with world := { m.world with journal := m.world.journal ++ chosen.notes } }) := by
      rw [newHandle, hcreate]
      rfl
    rw [Session.perform_bind_of_error hnew]
    exact .rejected e chosen.notes (Handle.create_rejected _ _ e hcreate)
  · obtain ⟨hsnapshot, -, htemplates, -⟩ := Handle.of_create_ok hcreate
    generalize hnoted :
      ({ m with world := { m.world with journal := m.world.journal ++ chosen.notes } } : Manager) = m₁
    have hregistry : m₁.registry = m.registry := hnoted ▸ rfl
    have hhandle (id : HandleId) : m₁.handle? id = m.handle? id := hnoted ▸ rfl
    have hnew : (newHandle snapshot snapshot.settings.poolingEnabled).perform m₁ =
        (.ok m₁.handles.length, { m₁ with handles := m₁.handles ++ [h] }) := by
      rw [newHandle, hcreate]
      rfl
    rw [Session.perform_bind_of_ok hnew, Session.perform_bind_of_ok (Session.perform_get _),
      Session.perform_bind_of_ok (Session.perform_set _ _)]
    -- from here on the new settings are the active ones
    generalize hactive : activate snapshot chosen m₁.handles.length { m₁ with handles := m₁.handles ++ [h] } = m₂
    have hchoice : m₂.choice = (m₁.registry, snapshot, chosen.connector, chosen.tls) := hactive ▸ rfl
    have hmade (id : HandleId) (h₂ : Handle) (hid : m₂.handle? id = some h₂) :=
      (Upholds.ofNewHandle m₁ hsnapshot).handles id h₂ (by rwa [← hactive] at hid)
    have hretired : Session.Respects (Upholds snapshot)
        (retire m₁.pool snapshot.settings >>= fun _ => pure m₁.handles.length) :=
      .bind (retire_upholds _ _) fun _ => .pure _
    have hinterrupted := ((retire_interrupted m₁.pool snapshot.settings).bind fun _ =>
      .pure m₁.handles.length) m₂ trivial
    refine .accepted _ _ chosen h.templates hchosen htemplates ?_ (fun id h₃ hid => ?_) hinterrupted.1
    · rw [(hretired m₂).choice, hchoice, hregistry]
    · rcases (hretired m₂).handles id h₃ hid with hnew | ⟨h₂, hid₂, hsame⟩
      · exact .inl hnew
      · rw [hsame, ← hhandle]
        exact hmade id h₂ hid₂

end Managed

/-! ## §4 Settings that can be used -/

namespace Manager

variable {m m' m'' : Manager} {snapshot : Snapshot}

/-- The active settings can be used, and so can those of every handle. -/
structure Usable (m : Manager) : Prop where
  /-- What is used is what the active settings choose. -/
  chosen : ∃ chosen, m.registry.collaborators m.active.settings = .ok chosen ∧ chosen.connector = m.connector ∧
    chosen.tls = m.tls
  compiled : ∃ templates, Templates.compile m.active.settings = .ok templates
  handles : ∀ id h, m.handle? id = some h → ∃ chosen, m.registry.collaborators h.settings = .ok chosen

/-- Whatever the registry has is there for good, and settings that can be used are not replaced by others. -/
structure Evolves (m m' : Manager) : Prop where
  registry : m'.registry = m.registry
  usable : m.Usable → m'.Usable

instance : IsPreorder Manager Evolves where
  refl _ := ⟨rfl, id⟩
  trans _ _ _ h g := ⟨g.registry.trans h.registry, g.usable ∘ h.usable⟩

/-- Settings that can be used have become the active ones. Handles were made for them, or were there before. -/
theorem Usable.ofChoice {chosen : Registry.Collaborators} {templates : Templates} (hm : m.Usable)
    (hchosen : m.registry.collaborators snapshot.settings = .ok chosen)
    (htemplates : Templates.compile snapshot.settings = .ok templates)
    (hchoice : m'.choice = (m.registry, snapshot, chosen.connector, chosen.tls))
    (hhandles : ∀ id h', m'.handle? id = some h' →
      h'.snapshot = snapshot ∨ ∃ h, m.handle? id = some h ∧ h'.snapshot = h.snapshot) : m'.Usable := by
  obtain ⟨hregistry, hactive, hconnector, htls⟩ :
      m'.registry = m.registry ∧ m'.active = snapshot ∧ m'.connector = chosen.connector ∧ m'.tls = chosen.tls := by
    simpa only [choice, Prod.mk.injEq] using hchoice
  refine ⟨?_, ?_, fun id h' hid => ?_⟩
  · rw [hregistry, hactive, hconnector, htls]
    exact ⟨chosen, hchosen, rfl, rfl⟩
  · rw [hactive]
    exact ⟨templates, htemplates⟩
  · rw [hregistry, Handle.settings]
    -- a handle belongs to the new settings, or is one of those that there were
    rcases hhandles id h' hid with hsame | ⟨h, hid, hsame⟩
    · rw [hsame]
      exact ⟨chosen, hchosen⟩
    · rw [hsame]
      exact hm.handles id h hid

theorem Abides.evolves (u : Abides m m') : Evolves m m' := by
  refine ⟨congrArg Prod.fst u.choice, fun hm => ?_⟩
  obtain ⟨chosen, hchosen, hconnector, htls⟩ := hm.chosen
  obtain ⟨templates, htemplates⟩ := hm.compiled
  refine hm.ofChoice hchosen htemplates (u.choice.trans ?_) u.handles
  rw [hconnector, htls]
  rfl

theorem Usable.of_new {registry : Registry} {chosen : Registry.Collaborators} {templates : Templates} {w : World}
    (hchosen : registry.collaborators snapshot.settings = .ok chosen)
    (htemplates : Templates.compile snapshot.settings = .ok templates) :
    Usable
      { registry := registry, active := snapshot, connector := chosen.connector, tls := chosen.tls,
        pool := poolFor snapshot.settings, world := w } :=
  ⟨⟨chosen, hchosen, rfl, rfl⟩, ⟨templates, htemplates⟩, fun _ _ hid => nomatch hid⟩

end Manager

namespace Managed

open Manager

variable {m m' : Manager} {snapshot : Snapshot} {result : Except Failure HandleId}

theorem Received.evolves (h : Received snapshot m result m') : Evolves m m' := by
  cases h with
  | rejected e notes he => exact ⟨rfl, fun hm => ⟨hm.chosen, hm.compiled, hm.handles⟩⟩
  | accepted _ _ chosen templates hchosen htemplates hchoice hhandles hinterrupted =>
    exact ⟨congrArg Prod.fst hchoice, fun hm => hm.ofChoice hchosen htemplates hchoice hhandles⟩

theorem reconfigure_evolves (snapshot : Snapshot) : (reconfigure snapshot).Respects Evolves :=
  fun m => (reconfigure_received snapshot m).evolves

theorem evolves {α : Type} {x : Managed α} (hx : x.Respects Abides) : x.Respects Evolves :=
  fun m => (hx m).evolves

end Managed

end DirectoryLogin

import DirectoryLogin.Proofs.Manager.Regular
import DirectoryLogin.Proofs.Realm.Running
/-!
# The Books of the Manager

Which handles there are, which of them wait in the pool, which one is shared and whether the mutex is held: this is
what the manager decides by. Connections come and go without a trace in it.

- `Manager.books`: a manager without its connections and the world behind them.
- `Manager.SameBooks`: what opening, closing and using a connection respect.
- `Manager.Retains`: no handle ever changes its snapshot, nor whether it belongs to a pool.
-/

namespace DirectoryLogin

namespace Manager

variable {m m' : Manager} {id : HandleId}

/-! ## §1 Managers with the same books -/

/-- The manager without its connections and the world behind them. -/
def books (m : Manager) : Manager :=
  { m with handles := m.handles.map fun h => { h with connection := none }, world := default }

/-- Only connections and the world may differ. -/
def SameBooks (m m' : Manager) : Prop :=
  m'.books = m.books

instance : IsPreorder Manager SameBooks where
  refl _ := rfl
  trans _ _ _ h g := g.trans h

theorem books_setConnection (m : Manager) (id : HandleId) (c? : Option Connection) :
    (m.setConnection id c?).books = m.books := by
  have hhandles : (m.handles.modify id fun h => { h with connection := c? }).map
      (fun h => { h with connection := none }) = m.handles.map fun h => { h with connection := none } := by
    apply List.ext_getElem?
    intro k
    simp only [List.getElem?_map, List.getElem?_modify]
    split
    · simp only [Option.map_eq_map, Option.map_map]
      rfl
    · simp
  unfold setConnection updateHandle books
  rw [hhandles]

namespace SameBooks

variable (h : SameBooks m m')
include h

theorem books_eq : m'.books = m.books :=
  h

theorem active : m'.active = m.active := by
  show m'.books.active = m.books.active
  rw [h.books_eq]

theorem pool : m'.pool = m.pool := by
  show m'.books.pool = m.books.pool
  rw [h.books_eq]

theorem shared : m'.shared = m.shared := by
  show m'.books.shared = m.books.shared
  rw [h.books_eq]

theorem ready : m'.ready = m.ready := by
  show m'.books.ready = m.books.ready
  rw [h.books_eq]

theorem isLocked : m'.isLocked = m.isLocked := by
  show m'.books.isLocked = m.books.isLocked
  rw [h.books_eq]

theorem handle {handle : Handle} (hid : m.handle? id = some handle) :
    ∃ handle', m'.handle? id = some handle' ∧ handle'.snapshot = handle.snapshot ∧
      handle'.pooled = handle.pooled := by
  have hbooks : (m'.handle? id).map (fun h => { h with connection := none }) =
      (m.handle? id).map fun h => { h with connection := none } := by
    have hhandles := congrArg (fun b : Manager => b.handle? id) h.books_eq
    simpa only [handle?, books, List.getElem?_map] using hhandles
  rw [hid, Option.map_some, Option.map_eq_some_iff] at hbooks
  obtain ⟨handle', hid', heq⟩ := hbooks
  rw [Handle.mk.injEq] at heq
  exact ⟨handle', hid', heq.1, heq.2.1⟩

end SameBooks

/-! ## §2 Handles that are retained -/

/-- Every handle is still there, with its snapshot, and it belongs to a pool if it did. -/
def Retains (m m' : Manager) : Prop :=
  ∀ id h, m.handle? id = some h → ∃ h', m'.handle? id = some h' ∧ h'.snapshot = h.snapshot ∧ h'.pooled = h.pooled

instance : IsPreorder Manager Retains where
  refl _ := fun _ h hid => ⟨h, hid, rfl, rfl⟩
  trans _ _ _ r r' := by
    intro id h hid
    obtain ⟨h', hid', hsnapshot, hpooled⟩ := r id h hid
    obtain ⟨h'', hid'', hsnapshot', hpooled'⟩ := r' id h' hid'
    exact ⟨h'', hid'', hsnapshot'.trans hsnapshot, hpooled'.trans hpooled⟩

theorem SameBooks.retains (h : SameBooks m m') : Retains m m' :=
  fun _ _ hid => h.handle hid

theorem Keeps.retains (h : Keeps m m') : Retains m m' := by
  intro id handle hid
  obtain ⟨handle', hid', hkeeps⟩ := h.old id handle hid
  exact ⟨handle', hid', hkeeps.snapshot, hkeeps.pooled⟩

/-- A handle that is there belongs to a pool if it did. -/
theorem Retains.isPooled (r : Retains m m') (hid : (m.handle? id).isSome) : m'.isPooled id = m.isPooled id := by
  obtain ⟨h, hid⟩ := Option.isSome_iff_exists.mp hid
  obtain ⟨h', hid', -, hpooled⟩ := r id h hid
  rw [Manager.isPooled, Manager.isPooled, hid, hid', Option.any_some, Option.any_some, hpooled]

theorem Retains.isSome (r : Retains m m') (hid : (m.handle? id).isSome) : (m'.handle? id).isSome := by
  obtain ⟨h, hid⟩ := Option.isSome_iff_exists.mp hid
  obtain ⟨h', hid', -, -⟩ := r id h hid
  rw [hid']
  rfl

theorem Retains.serving (r : Retains m m') (hactive : m'.active = m.active) {pooled : Bool}
    (h : m.Serving id pooled) : m'.Serving id pooled := by
  obtain ⟨handle, hid, hsnapshot, hpooled⟩ := h
  obtain ⟨handle', hid', hsnapshot', hpooled'⟩ := r id handle hid
  exact ⟨handle', hid', by rw [hsnapshot', hsnapshot, hactive], hpooled'.trans hpooled⟩

end Manager

namespace Managed

open Manager

variable {α : Type}

/-! ## §3 Steps that leave the books alone -/

theorem onWorld_sameBooks (x : Session World α) : (onWorld x).Respects SameBooks :=
  fun _ => rfl

/-- **Whatever is done over a connection** leaves the books alone. -/
theorem onConnection_sameBooks (id : HandleId) (x : Exchange α) : (onConnection id x).Respects SameBooks := by
  intro m
  rw [perform_onConnection]
  rcases m.connection? id with _ | c
  · exact refl_of SameBooks m
  · exact books_setConnection m id _

theorem onHandle_sameBooks (id : HandleId) (x : Handle → Exchange α) : (onHandle id x).Respects SameBooks := by
  refine .bind_get fun m => ?_
  rcases m.handle? id with _ | h
  · exact refl_of SameBooks m
  · exact onConnection_sameBooks id (x h) m

theorem openHandle_sameBooks (id : HandleId) : (openHandle id).Respects SameBooks := by
  intro m
  rcases hid : m.handle? id with _ | h
  · rw [perform_openHandle_of_none hid]
    exact refl_of SameBooks m
  · rw [perform_openHandle hid]
    rcases (Connection.establish m.connector m.tls h.settings).perform m.world with ⟨e | c, w⟩
    · exact refl_of SameBooks m
    · exact books_setConnection m id _

theorem closeConnection_sameBooks (id : HandleId) : (closeConnection id).Respects SameBooks := by
  have hclose : Session.Respects SameBooks ((onConnection id Exchange.close).rescue fun e =>
      if e.isOrdinary then some (say .error ("Error closing directory connection: " ++ e.message)) else none) :=
    .rescue_if (onConnection_sameBooks id _) fun _ _ => onWorld_sameBooks _
  refine .bind_get fun m => ?_
  split
  · exact refl_of SameBooks m
  · exact Session.Respects.bind hclose (fun _ => .modify fun m => books_setConnection m id none) m

theorem forM_closeConnection_sameBooks (ids : List HandleId) : (ids.forM closeConnection).Respects SameBooks :=
  .forM closeConnection_sameBooks ids

end Managed

end DirectoryLogin

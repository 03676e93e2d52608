import DirectoryLogin.Proofs.Manager.Desk
import DirectoryLogin.Proofs.Manager.Faultless
/-!
# The Manager Keeps its Books in Order

What is true of the books whenever no operation is under way, given the handles that are out: the pool holds no more
than it may, no handle is in two places, and whoever has the shared handle holds the mutex. Every change that an
operation makes to the books keeps them in order.

- `Manager.InOrder`: the invariant of the books.
- `Manager.Held`: every open handle is out, idle or shared.
-/

namespace DirectoryLogin

/-- Giving the mutex back although nobody holds it. -/
def Failure.unlockedTwice : Failure :=
  .defect .badState "release unlocked lock"

namespace Manager

/-- The handles that wait in the pool. -/
def idle (m : Manager) : List HandleId :=
  m.pool.elim [] Pool.items

/-- The handle has a connection. -/
def isOpen (m : Manager) (id : HandleId) : Bool :=
  (m.connection? id).isSome

/-! ## §1 The invariants -/

/-- The books are in order, while the handles `out` are out. -/
structure InOrder (m : Manager) (out : List HandleId) : Prop where
  room : ∀ pool, m.pool = some pool →
    (pool.capacity : Int) = m.active.settings.connectionPoolSize ∧ pool.size ≤ pool.capacity
  distinct : (m.idle ++ out).Nodup
  idle : ∀ id ∈ m.idle, m.Serving id true
  kept : ∀ id, m.shared = some id ∨ m.ready = some id → ∃ h, m.handle? id = some h ∧ h.pooled = false
  known : ∀ id ∈ out, (m.handle? id).isSome
  single : ∀ id ∈ out, m.isPooled id = false → m.isLocked = true ∧ m.shared = some id

/-- Every open handle is out, idle or shared, or it is one of those that are about to be closed. -/
def Held (m : Manager) (out closing : List HandleId) : Prop :=
  ∀ id, m.isOpen id = true → id ∈ out ∨ id ∈ m.idle ∨ m.shared = some id ∨ id ∈ closing

variable {m m' : Manager} {out out' closing : List HandleId} {id : HandleId}

/-- A pool for some settings is as large as they ask for. -/
theorem capacity_of_poolFor {s : Settings} {pool : Pool HandleId} (h : poolFor s = some pool) :
    s.poolingEnabled = true ∧ (pool.capacity : Int) = s.connectionPoolSize := by
  unfold poolFor at h
  split at h
  · rename_i hpooling
    cases h
    have hsize : 1 < s.connectionPoolSize := of_decide_eq_true hpooling
    exact ⟨hpooling, Int.toNat_of_nonneg (by omega)⟩
  · cases h

theorem SameBooks.idle (h : SameBooks m m') : m'.idle = m.idle := by
  rw [Manager.idle, Manager.idle, h.pool]

/-! ### The pool for new settings -/

/-- New settings come with a new pool, if they ask for one, and at most their own handle is in it. -/
theorem pool_activate {snapshot : Snapshot} {chosen : Registry.Collaborators} {pool : Pool HandleId}
    (h : (Managed.activate snapshot chosen id m).pool = some pool) :
    snapshot.settings.poolingEnabled = true ∧ (pool.capacity : Int) = snapshot.settings.connectionPoolSize ∧
      pool.size ≤ pool.capacity ∧ (pool.items = [] ∨ pool.items = [id]) := by
  obtain ⟨empty, hempty, rfl⟩ := Option.map_eq_some_iff.mp h
  obtain ⟨hpooling, hcapacity⟩ := capacity_of_poolFor hempty
  have hitems := items_of_poolFor hempty
  rcases hpush : empty.push? id with _ | pool
  · rw [Option.getD_none, Pool.size, hitems]
    exact ⟨hpooling, hcapacity, Nat.zero_le _, .inl rfl⟩
  · obtain ⟨hsame, hroom⟩ := Pool.room_of_push? hpush
    have hitems' : pool.items = [id] := by rw [Pool.items_of_push? hpush, hitems]
    rw [Option.getD_some, Pool.size, hitems', hsame]
    rw [Pool.size, hitems] at hroom
    exact ⟨hpooling, hcapacity, hroom, .inr rfl⟩

theorem idle_activate (m : Manager) (snapshot : Snapshot) (chosen : Registry.Collaborators) (id : HandleId) :
    (Managed.activate snapshot chosen id m).idle = [] ∨
      snapshot.settings.poolingEnabled = true ∧ (Managed.activate snapshot chosen id m).idle = [id] := by
  rcases hpool : (Managed.activate snapshot chosen id m).pool with _ | pool
  · left
    rw [Manager.idle, hpool]
    rfl
  · obtain ⟨hpooling, -, -, hitems⟩ := pool_activate hpool
    rw [Manager.idle, hpool, Option.elim_some]
    exact hitems.imp_right fun hone => ⟨hpooling, hone⟩

namespace InOrder

/-! ### Handles that are not out -/

theorem known_of_idle (hm : m.InOrder out) (hid : id ∈ m.idle) : (m.handle? id).isSome := by
  obtain ⟨h, hid, -, -⟩ := hm.idle id hid
  rw [hid]
  rfl

theorem not_mem_out_of_idle (hm : m.InOrder out) (hid : id ∈ m.idle) : id ∉ out :=
  fun hout => (List.nodup_append.mp hm.distinct).2.2 id hid id hout rfl

theorem length_not_mem (hm : m.InOrder out) : m.handles.length ∉ m.idle ++ out := by
  have hnone : m.handle? m.handles.length = none := List.getElem?_eq_none (Nat.le_refl _)
  -- the number of the next handle is that of none
  intro hmem
  have hsome : (m.handle? m.handles.length).isSome := by
    rcases List.mem_append.mp hmem with hidle | hout
    · exact hm.known_of_idle hidle
    · exact hm.known _ hout
  rw [hnone] at hsome
  cases hsome

/-- While nobody holds the mutex, all handles that are out belong to a pool. -/
theorem pooled_of_free (hm : m.InOrder out) (hfree : m.isLocked = false) : ∀ id ∈ out, m.isPooled id = true := by
  intro id hid
  by_contra hpooled
  have hlocked := (hm.single id hid (Bool.eq_false_iff.mpr hpooled)).1
  rw [hfree] at hlocked
  cases hlocked

/-- Only one handle that is out belongs to no pool. -/
theorem pooled_of_ne (hm : m.InOrder out) (hid : id ∈ out) (hsingle : m.isPooled id = false) :
    ∀ other ∈ out.erase id, m.isPooled other = true := by
  intro other hother
  by_contra hpooled
  -- both would be the shared handle, which is out only once
  have hshared := (hm.single id hid hsingle).2
  have hshared' := (hm.single other (List.mem_of_mem_erase hother) (Bool.eq_false_iff.mpr hpooled)).2
  rw [hshared, Option.some.injEq] at hshared'
  have hnodup : out.Nodup := (List.nodup_append.mp hm.distinct).2.1
  exact hnodup.not_mem_erase (hshared' ▸ hother)

/-! ### Changes that keep the order -/

theorem ofBooks (hm : m.InOrder out) (h : SameBooks m m') : m'.InOrder out where
  -- the books say the same, and every handle serves as it did
  room pool hpool := by
    rw [h.active]
    exact hm.room pool (h.pool ▸ hpool)
  distinct := by
    rw [h.idle]
    exact hm.distinct
  idle id hid := h.retains.serving h.active (hm.idle id (h.idle ▸ hid))
  kept id hkept := by
    rw [h.shared, h.ready] at hkept
    obtain ⟨handle, hid, hpooled⟩ := hm.kept id hkept
    obtain ⟨handle', hid', -, hpooled'⟩ := h.handle hid
    exact ⟨handle', hid', hpooled'.trans hpooled⟩
  known id hid := h.retains.isSome (hm.known id hid)
  single id hid hsingle := by
    rw [h.retains.isPooled (hm.known id hid)] at hsingle
    rw [h.isLocked, h.shared]
    exact hm.single id hid hsingle

/-- Handles may be given back at any time. -/
theorem sublist (hm : m.InOrder out) (h : out'.Sublist out) : m.InOrder out' :=
  ⟨hm.room, hm.distinct.sublist (h.append_left _), hm.idle, hm.kept, fun id hid => hm.known id (h.subset hid),
    fun id hid => hm.single id (h.subset hid)⟩

/-- A handle of a pool is lent out. -/
theorem lend (hm : m.InOrder out) (hid : id ∉ m.idle ++ out) (hknown : (m.handle? id).isSome)
    (hsingle : m.isPooled id = false → m.isLocked = true ∧ m.shared = some id) : m.InOrder (id :: out) where
  room := hm.room
  distinct := List.perm_middle.nodup_iff.mpr (List.nodup_cons.mpr ⟨hid, hm.distinct⟩)
  idle := hm.idle
  kept := hm.kept
  -- one more handle is out, and of it this is known
  known other hother := by
    rcases List.mem_cons.mp hother with rfl | hother
    · exact hknown
    · exact hm.known other hother
  single other hother := by
    rcases List.mem_cons.mp hother with rfl | hother
    · exact hsingle
    · exact hm.single other hother

/-- The handle that was put into the pool last is taken out. -/
theorem take (hm : m.InOrder out) {pool rest : Pool HandleId} (hpool : m.pool = some pool)
    (hpop : pool.pop? = some (id, rest)) : InOrder { m with pool := some rest } (id :: out) := by
  have hitems := Pool.items_of_pop? hpop
  have hidle : m.idle = id :: rest.items := by rw [Manager.idle, hpool, Option.elim_some, hitems]
  have hmem : id ∈ m.idle := hidle ▸ List.mem_cons_self
  have hdistinct := hm.distinct
  rw [hidle] at hdistinct
  constructor
  · -- the pool has one handle less
    rintro _ ⟨⟩
    obtain ⟨hcapacity, hsize⟩ := hm.room pool hpool
    rw [Pool.capacity_of_pop? hpop]
    rw [Pool.size, hitems, List.length_cons] at hsize
    exact ⟨hcapacity, Nat.le_of_succ_le hsize⟩
  · exact List.perm_middle.nodup_iff.mpr hdistinct
  · -- the handle that was taken comes from the front, so what is idle was idle before
    intro other hother
    exact hm.idle other (hidle ▸ List.mem_cons_of_mem id hother)
  · exact hm.kept
  · intro other hother
    rcases List.mem_cons.mp hother with rfl | hother
    · exact hm.known_of_idle hmem
    · exact hm.known other hother
  · -- a handle that was idle is pooled, so it is not a single one
    intro other hother hsingle
    rcases List.mem_cons.mp hother with rfl | hother
    · have hpooled := (hm.idle other hmem).isPooled
      have hsingle : m.isPooled other = false := hsingle
      rw [hpooled] at hsingle
      cases hsingle
    · exact hm.single other hother hsingle

/-- A handle that was out goes back into the pool. -/
theorem put (hm : m.InOrder out) {pool pool' : Pool HandleId} (hpool : m.pool = some pool) (hid : id ∈ out)
    (hserving : m.Serving id true) (hpush : pool.push? id = some pool') :
    InOrder { m with pool := some pool' } (out.erase id) := by
  have hitems := Pool.items_of_push? hpush
  obtain ⟨hcapacity, hroom⟩ := Pool.room_of_push? hpush
  have hidle : m.idle = pool.items := by rw [Manager.idle, hpool, Option.elim_some]
  constructor
  · rintro _ ⟨⟩
    rw [hcapacity, Pool.size, hitems]
    exact ⟨(hm.room pool hpool).1, hroom⟩
  · -- the handle has moved from those that are out to those that are idle
    have hperm : (pool'.items ++ out.erase id).Perm (m.idle ++ out) := by
      rw [hitems, hidle, List.cons_append]
      exact List.perm_middle.symm.trans ((List.perm_cons_erase hid).symm.append_left _)
    exact hperm.nodup_iff.mpr hm.distinct
  · -- it serves the active settings, as it has to in the pool
    intro other hother
    have hother : other ∈ pool'.items := hother
    rw [hitems] at hother
    rcases List.mem_cons.mp hother with rfl | hother
    · exact hserving
    · exact hm.idle other (hidle ▸ hother)
  · exact hm.kept
  · exact fun other hother => hm.known other (List.mem_of_mem_erase hother)
  · exact fun other hother => hm.single other (List.mem_of_mem_erase hother)

/-- The pool is emptied. -/
theorem emptied (hm : m.InOrder out) {pool : Pool HandleId} (hpool : m.pool = some pool) :
    InOrder { m with pool := some { pool with items := [] } } out where
  room := by
    rintro _ ⟨⟩
    exact ⟨(hm.room pool hpool).1, Nat.zero_le _⟩
  distinct := (List.nodup_append.mp hm.distinct).2.1
  idle _ hid := nomatch hid
  kept := hm.kept
  known := hm.known
  single := hm.single

theorem ofLock (hm : m.InOrder out) : InOrder { m with isLocked := true } out :=
  ⟨hm.room, hm.distinct, hm.idle, hm.kept, hm.known, fun id hid hsingle => ⟨rfl, (hm.single id hid hsingle).2⟩⟩

theorem ofUnlock (hm : m.InOrder out) (hpooled : ∀ id ∈ out, m.isPooled id = true) :
    InOrder { m with isLocked := false } out :=
  ⟨hm.room, hm.distinct, hm.idle, hm.kept, hm.known, fun id hid hsingle => by
    have hsingle : m.isPooled id = false := hsingle
    rw [hpooled id hid] at hsingle
    cases hsingle⟩

/-- Other handles are shared and kept ready, while none that is shared is out. -/
theorem ofKept (hm : m.InOrder out) {shared ready : Option HandleId} (hpooled : ∀ id ∈ out, m.isPooled id = true)
    (hkept : ∀ id, shared = some id ∨ ready = some id → ∃ h, m.handle? id = some h ∧ h.pooled = false) :
    InOrder { m with shared := shared, ready := ready } out :=
  ⟨hm.room, hm.distinct, hm.idle, hkept, hm.known, fun id hid hsingle => by
    have hsingle : m.isPooled id = false := hsingle
    rw [hpooled id hid] at hsingle
    cases hsingle⟩

/-- There is one more handle. -/
theorem ofNewHandle (hm : m.InOrder out) {h : Handle} (hclosed : h.connection = none) :
    InOrder { m with handles := m.handles ++ [h] } out := by
  have hretains := (Stays.ofNewHandle m hclosed).toKeeps.retains
  constructor
  · exact hm.room
  · exact hm.distinct
  · -- the handles that there were serve as before, whatever their number
    exact fun id hid => hretains.serving rfl (hm.idle id hid)
  · intro id hkept
    obtain ⟨handle, hid, hpooled⟩ := hm.kept id hkept
    obtain ⟨handle', hid', -, hpooled'⟩ := hretains id handle hid
    exact ⟨handle', hid', hpooled'.trans hpooled⟩
  · exact fun id hid => hretains.isSome (hm.known id hid)
  · intro id hid hsingle
    rw [hretains.isPooled (hm.known id hid)] at hsingle
    exact hm.single id hid hsingle

/-- Another snapshot is made active, with a new handle for it. -/
theorem ofActivate (hm : m.InOrder out) {snapshot : Snapshot} (chosen : Registry.Collaborators) {h : Handle}
    (hid : m.handle? id = some h) (hsnapshot : h.snapshot = snapshot)
    (hpooled : h.pooled = snapshot.settings.poolingEnabled) (hfresh : id ∉ out) :
    InOrder (Managed.activate snapshot chosen id m) out := by
  -- the handle was made for the new settings, and serves them if it is pooled
  have hserving : snapshot.settings.poolingEnabled = true →
      (Managed.activate snapshot chosen id m).Serving id true :=
    fun hpooling => ⟨h, hid, hsnapshot, hpooled.trans hpooling⟩
  have hidle := m.idle_activate snapshot chosen id
  constructor
  · intro pool hsome
    obtain ⟨-, hcapacity, hsize, -⟩ := pool_activate hsome
    exact ⟨hcapacity, hsize⟩
  · -- the new pool is empty, or holds just this handle, which is not out
    have hnodup : out.Nodup := (List.nodup_append.mp hm.distinct).2.1
    rcases hidle with hempty | ⟨-, hone⟩
    · rw [hempty]
      exact hnodup
    · rw [hone]
      exact List.nodup_cons.mpr ⟨hfresh, hnodup⟩
  · intro other hother
    rcases hidle with hempty | ⟨hpooling, hone⟩
    · rw [hempty] at hother
      cases hother
    · rw [hone] at hother
      rw [List.mem_singleton.mp hother]
      exact hserving hpooling
  · -- a handle that is ready or shared is not pooled
    intro other hkept
    rcases hkept with hshared | hready
    · exact hm.kept other (.inl hshared)
    · have hready : (if snapshot.settings.poolingEnabled then m.ready else some id) = some other := hready
      split at hready
      · exact hm.kept other (.inr hready)
      · rename_i hpooling
        cases hready
        exact ⟨h, hid, hpooled.trans (Bool.eq_false_iff.mpr hpooling)⟩
  · exact hm.known
  · exact hm.single

end InOrder

/-! ### Handles that are held -/

theorem Held.mono (h : m.Held out closing) {closing' : List HandleId} (hout : ∀ id ∈ out, id ∈ out')
    (hclosing : ∀ id ∈ closing, id ∈ closing') : m.Held out' closing' := by
  intro id hopen
  rcases h id hopen with hmem | hmem | hmem | hmem
  · exact .inl (hout id hmem)
  · exact .inr (.inl hmem)
  · exact .inr (.inr (.inl hmem))
  · exact .inr (.inr (.inr (hclosing id hmem)))

/-- Handles that nobody holds any more have been closed. -/
theorem Held.closed (h : m.Held out closing) (hshared : m'.shared = m.shared) (hidle : m'.idle = m.idle)
    {ids : List HandleId} (hopen : ∀ id, m'.isOpen id = true ↔ m.isOpen id = true ∧ id ∉ ids)
    (hclosing : ∀ id ∈ closing, id ∈ ids) : m'.Held out [] := by
  intro id hid
  obtain ⟨hid, hnot⟩ := (hopen id).mp hid
  rw [hshared, hidle]
  rcases h id hid with hmem | hmem | hmem | hmem
  · exact .inl hmem
  · exact .inr (.inl hmem)
  · exact .inr (.inr (.inl hmem))
  · exact absurd (hclosing id hmem) hnot

end Manager

end DirectoryLogin

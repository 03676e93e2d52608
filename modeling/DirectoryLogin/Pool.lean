/-!
# Pools

A bounded stack: what was put in last comes out first, and nothing is put in beyond the capacity.
-/

namespace DirectoryLogin

/-- A bounded stack of items. -/
structure Pool (α : Type) where
  /-- How many items it may hold. -/
  capacity : Nat
  /-- The items, the one that was put in last first. -/
  items : List α := []
deriving DecidableEq, Repr, Inhabited

namespace Pool

variable {α : Type}

/-- How many items the pool holds. -/
def size (p : Pool α) : Nat :=
  p.items.length

/-- The items in the order in which they were put in. -/
def toList (p : Pool α) : List α :=
  p.items.reverse

/-- Put an item in, unless the pool is full. -/
def push? (p : Pool α) (a : α) : Option (Pool α) :=
  if p.size < p.capacity then some { p with items := a :: p.items } else none

/-- Take out the item that was put in last. -/
def pop? (p : Pool α) : Option (α × Pool α) :=
  match p.items with
  | [] => none
  | a :: rest => some (a, { p with items := rest })

/-- Take out all items, in the order in which they were put in. -/
def drain (p : Pool α) : List α × Pool α :=
  (p.toList, { p with items := [] })

/-! ## Laws -/

/-- A new item is on top of the others. -/
theorem items_of_push? {p q : Pool α} {a : α} (h : p.push? a = some q) : q.items = a :: p.items := by
  unfold push? at h
  split at h
  · cases h
    rfl
  · cases h

/-- An item gets in only if there is room for it, and the room stays what it was. -/
theorem room_of_push? {p q : Pool α} {a : α} (h : p.push? a = some q) :
    q.capacity = p.capacity ∧ p.size < p.capacity := by
  unfold push? at h
  split at h
  · rename_i hroom
    cases h
    exact ⟨rfl, hroom⟩
  · cases h

theorem capacity_of_pop? {p q : Pool α} {a : α} (h : p.pop? = some (a, q)) : q.capacity = p.capacity := by
  unfold pop? at h
  split at h
  · cases h
  · cases h
    rfl

/-- The item that is taken out was on top of the others. -/
theorem items_of_pop? {p q : Pool α} {a : α} (h : p.pop? = some (a, q)) : p.items = a :: q.items := by
  unfold pop? at h
  split at h
  · cases h
  · rename_i hitems
    cases h
    exact hitems

/-- Only an empty pool has no item to take out. -/
theorem items_of_pop?_eq_none {p : Pool α} (h : p.pop? = none) : p.items = [] := by
  unfold pop? at h
  split at h
  · assumption
  · cases h

/-- Whether or not there is room for an item, no other one gets in. -/
theorem mem_items_push? {p : Pool α} {a b : α} (h : b ∈ ((p.push? a).getD p).items) : b = a ∨ b ∈ p.items := by
  rcases hpush : p.push? a with _ | q
  · rw [hpush] at h
    exact .inr h
  · rw [hpush, Option.getD_some, items_of_push? hpush] at h
    exact List.mem_cons.mp h

/-- Only a full pool refuses an item. -/
theorem push?_eq_none_iff {p : Pool α} {a : α} : p.push? a = none ↔ p.capacity ≤ p.size := by
  simp [push?]

/-- The item that was put in last is taken out first. -/
theorem pop?_of_push? {p q : Pool α} {a : α} (h : p.push? a = some q) : q.pop? = some (a, p) := by
  unfold push? at h
  split at h
  · cases h; rfl
  · cases h

end Pool

end DirectoryLogin

import DirectoryLogin.Connection.Results
import Mathlib.Data.List.TakeWhile
/-!
# What Is Handed Out of an Answer

The items of an answer are looked at one after the other, and a reference to other servers ends that: what is handed
out are the entries in front of the first reference. Entries behind it are never seen.

- `Results.items_ofResponse`: the results of an answer.
- `Results.ending_ofResponse_eq_none_iff`, `Results.kind_of_ending_ofItems`: the failure that follows them.
-/

namespace DirectoryLogin

/-! ## §1 The entries of an answer -/

namespace ResponseItem

/-- The item refers to other servers. -/
def isReference : ResponseItem → Bool
  | .reference _ => true
  | _ => false

/-- The item as an entry, if it is one. -/
def entry? : ResponseItem → Option (String × Option Attributes)
  | .entry dn attributes => some (dn, attributes)
  | _ => none

end ResponseItem

namespace Response

/-- All entries of an answer. -/
def entries (r : Response) : List (String × Option Attributes) :=
  r.items.filterMap ResponseItem.entry?

/-- The entries in front of the first reference. -/
def entriesRead (r : Response) : List (String × Option Attributes) :=
  (r.items.takeWhile (!·.isReference)).filterMap ResponseItem.entry?

/-- The entries behind the first reference. -/
def entriesUnread (r : Response) : List (String × Option Attributes) :=
  (r.items.dropWhile (!·.isReference)).filterMap ResponseItem.entry?

/-- The answer refers to no other server, neither among its items nor at its end. -/
def IsComplete (r : Response) : Prop :=
  (∀ item ∈ r.items, item.isReference = false) ∧ r.code ≠ referralCode

theorem entries_eq (r : Response) : r.entries = r.entriesRead ++ r.entriesUnread := by
  rw [entries, entriesRead, entriesUnread, ← List.filterMap_append, List.takeWhile_append_dropWhile]

/-- Nothing stands behind a reference of a complete answer. -/
theorem IsComplete.entriesUnread {r : Response} (h : r.IsComplete) : r.entriesUnread = [] := by
  have hnone : r.items.dropWhile (!·.isReference) = [] := by
    rw [List.dropWhile_eq_nil_iff]
    intro item hitem
    rw [h.1 item hitem]
    rfl
  rw [Response.entriesUnread, hnone]
  rfl

/-- All entries of a complete answer are read. -/
theorem IsComplete.entriesRead {r : Response} (h : r.IsComplete) : r.entriesRead = r.entries := by
  rw [r.entries_eq, h.entriesUnread, List.append_nil]

end Response

/-! ## §2 What is handed out -/

namespace Results

section Items

variable (base : String) (isReferred asReferral : Bool)

/-- The entries in front of the first reference are handed out, in order. -/
theorem items_ofItems (items : List ResponseItem) :
    (ofItems base isReferred asReferral items).items =
      ((items.takeWhile (!·.isReference)).filterMap ResponseItem.entry?).map fun e => ofEntry base e.1 e.2 := by
  induction items with
  | nil => rfl
  | cons item rest ih =>
    cases item with
    | entry dn attributes =>
      rw [ofItems, cons, ih]
      rfl
    | reference uris => rfl
    | other =>
      rw [ofItems, ih]
      rfl

/-- No failure follows the results if there is no reference and no referral. -/
theorem ending_ofItems_eq_none_iff (items : List ResponseItem) :
    (ofItems base isReferred asReferral items).ending = none ↔
      (∀ item ∈ items, item.isReference = false) ∧ isReferred = false := by
  induction items with
  | nil => cases isReferred <;> simp [ofItems]
  | cons item rest ih =>
    rw [List.forall_mem_cons]
    cases item with
    | entry dn attributes => simpa [ofItems, cons, ResponseItem.isReference] using ih
    | reference uris => simp [ofItems, ResponseItem.isReference]
    | other => simpa [ofItems, ResponseItem.isReference] using ih

/-- The failure that follows the results says that they are incomplete, or elsewhere. -/
theorem kind_of_ending_ofItems {items : List ResponseItem} {e : Failure}
    (h : (ofItems base isReferred asReferral items).ending = some e) :
    e.directoryKind? = some (if asReferral then .referral else .partialResult) := by
  induction items with
  | nil =>
    rw [ofItems] at h
    split at h
    · cases h
      rfl
    · cases h
  | cons item rest ih =>
    cases item with
    | entry dn attributes => exact ih h
    | reference uris =>
      -- the first reference ends the results
      cases h
      rfl
    | other => exact ih h

end Items

theorem items_ofResponse (base : String) (asReferral : Bool) (r : Response) :
    (ofResponse base asReferral r).items = r.entriesRead.map fun e => ofEntry base e.1 e.2 :=
  items_ofItems base _ asReferral r.items

theorem ending_ofResponse_eq_none_iff {base : String} {asReferral : Bool} {r : Response} :
    (ofResponse base asReferral r).ending = none ↔ r.IsComplete := by
  rw [ofResponse, ending_ofItems_eq_none_iff, Response.IsComplete, beq_eq_false_iff_ne]

end Results

end DirectoryLogin

import DirectoryLogin.Text.Blank
import Mathlib.Data.List.TakeWhile
/-!
# Trimmed Texts

What is taken off a text at both ends, and what is left.

- `Text.exists_trimList`: a text is what is left of it, between characters that are taken off.
- `Text.trimList_eq_self_iff`: the texts of which nothing is taken off.
-/

namespace DirectoryLogin.Text

variable {p : Char → Bool} {cs : List Char} {c : Char}

/-- What a text holds nothing of is not in it. -/
theorem not_mem_of_forall (h : ∀ c ∈ cs, p c = false) (hc : p c = true) : c ∉ cs := by
  intro hmem
  rw [h c hmem] at hc
  cases hc

/-- A visible ASCII character is no blank. -/
theorem isBlank_of_visible (hlow : 0x20 < c.toNat) (hhigh : c.toNat < 0x7F) : isBlank c = false := by
  simp only [isBlank, isWhiteSpace, Bool.or_eq_false_iff, Bool.and_eq_false_iff, decide_eq_false_iff_not,
    beq_eq_false_iff_ne]
  omega

/-- Digits and letters are visible. -/
theorem isBlank_of_between {low high : Char} (hvisible : 0x20 < low.toNat ∧ high.toNat < 0x7F)
    (h : low ≤ c ∧ c ≤ high) : isBlank c = false := by
  have hlow : low.toNat ≤ c.toNat := h.1
  have hhigh : c.toNat ≤ high.toNat := h.2
  exact isBlank_of_visible (by omega) (by omega)

/-- **A text** is what is left of it, between characters that are taken off. -/
theorem exists_trimList (p : Char → Bool) (cs : List Char) :
    ∃ front back, cs = front ++ (trimList p cs ++ back) ∧ (∀ c ∈ front, p c = true) ∧ ∀ c ∈ back, p c = true := by
  have hback : cs.dropWhile p = trimList p cs ++ ((cs.dropWhile p).reverse.takeWhile p).reverse := by
    rw [trimList, ← List.reverse_append, List.takeWhile_append_dropWhile, List.reverse_reverse]
  refine ⟨cs.takeWhile p, ((cs.dropWhile p).reverse.takeWhile p).reverse, ?_, ?_, ?_⟩
  · rw [← hback, List.takeWhile_append_dropWhile]
  · intro c hc
    exact List.mem_takeWhile_imp hc
  · intro c hc
    exact List.mem_takeWhile_imp (List.mem_reverse.mp hc)

theorem mem_of_mem_trimList (h : c ∈ trimList p cs) : c ∈ cs := by
  obtain ⟨front, back, hcs, -⟩ := exists_trimList p cs
  rw [hcs]
  simp [h]

/-- What is taken off a text at both ends is what was put around it. -/
theorem trimList_between {front back : List Char} (hfront : ∀ c ∈ front, p c = true) (hcs : ∀ c ∈ cs, p c = false)
    (hback : ∀ c ∈ back, p c = true) : trimList p (front ++ (cs ++ back)) = cs := by
  rw [trimList, List.dropWhile_append_of_pos hfront]
  cases cs with
  | nil =>
    rw [List.nil_append, List.dropWhile_eq_nil_iff.mpr hback]
    rfl
  | cons c rest =>
    -- the last character of the middle is kept as well, so the trimming stops on both sides
    have hends : ∀ c' ∈ (c :: rest).reverse, p c' = false := fun c' hc' => hcs c' (List.mem_reverse.mp hc')
    rw [List.cons_append, List.dropWhile_cons_of_neg (by simp [hcs c List.mem_cons_self]), ← List.cons_append,
      List.reverse_append, List.dropWhile_append_of_pos fun c' hc' => hback c' (List.mem_reverse.mp hc')]
    rcases hreverse : (c :: rest).reverse with _ | ⟨last, before⟩
    · simp at hreverse
    · rw [hreverse] at hends
      rw [List.dropWhile_cons_of_neg (by simp [hends last List.mem_cons_self]), ← hreverse, List.reverse_reverse]

/-- What is not in the set is left. -/
theorem mem_trimList_of_mem (h : c ∈ cs) (hc : p c = false) : c ∈ trimList p cs := by
  obtain ⟨front, back, hcs, hfront, hback⟩ := exists_trimList p cs
  rw [hcs, List.mem_append, List.mem_append] at h
  rcases h with h | h | h
  · exact absurd (hfront c h) (by simp [hc])
  · exact h
  · exact absurd (hback c h) (by simp [hc])

/-- Nothing is left just of a text that is all in the set. -/
theorem trimList_eq_nil_iff : trimList p cs = [] ↔ cs.all p = true := by
  constructor
  · intro h
    refine List.all_eq_true.mpr fun c hc => ?_
    by_contra hnot
    exact absurd (mem_trimList_of_mem hc (by simpa using hnot)) (h ▸ List.not_mem_nil)
  · intro h
    have hdrop : cs.dropWhile p = [] := List.dropWhile_eq_nil_iff.mpr (List.all_eq_true.mp h)
    rw [trimList, hdrop]
    rfl

/-- What is left does not begin with a character of the set. -/
theorem of_head?_trimList (h : (trimList p cs).head? = some c) : p c = false := by
  have hprefix : (trimList p cs) <+: cs.dropWhile p := by
    rw [trimList, ← List.reverse_suffix, List.reverse_reverse]
    exact List.dropWhile_suffix p
  obtain ⟨back, hback⟩ := hprefix
  have hhead : (cs.dropWhile p).head? = some c := by rw [← hback, List.head?_append, h]; rfl
  have hnot := List.head?_dropWhile_not p cs
  rw [hhead] at hnot
  simpa using hnot

/-- What is left does not end with a character of the set. -/
theorem of_getLast?_trimList (h : (trimList p cs).getLast? = some c) : p c = false := by
  rw [trimList, List.getLast?_reverse] at h
  have hnot := List.head?_dropWhile_not p (cs.dropWhile p).reverse
  rw [h] at hnot
  simpa using hnot

/-- **Nothing is taken off** just where neither end is in the set. -/
theorem trimList_eq_self_iff :
    trimList p cs = cs ↔ (∀ c, cs.head? = some c → p c = false) ∧ ∀ c, cs.getLast? = some c → p c = false := by
  constructor
  · intro h
    exact ⟨fun c hc => of_head?_trimList (h ▸ hc), fun c hc => of_getLast?_trimList (h ▸ hc)⟩
  · rintro ⟨hhead, hlast⟩
    exact trimList_eq_self hhead hlast

/-- What is left stays. -/
@[simp] theorem trimList_trimList (p : Char → Bool) (cs : List Char) : trimList p (trimList p cs) = trimList p cs :=
  trimList_eq_self (fun _ => of_head?_trimList) fun _ => of_getLast?_trimList

end DirectoryLogin.Text
